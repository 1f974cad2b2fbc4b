import OpcuaStack.ClientTransport

/-!
# Messages read back

What the encoders of the secure conversation and of the transport write, the
decoders read back, and nothing may follow it.  A body which is written alone
ends with the buffer; a message with a frame header ends where its size says,
so it is given the size of the longer frame.
-/

namespace OpcuaStack
namespace Binary

/-- The decoder returns what was encoded, and refuses the encoding with anything
appended to it in the given way. -/
structure RecoversExactly {α : Type} (encode : α → ByteString)
    (decode : ByteString → Option α)
    (extend : ByteString → ByteString → ByteString) (value : α) : Prop where
  recovers : decode (encode value) = some value
  refuses : ∀ extra, extra ≠ [] → decode (extend (encode value) extra) = none

/-- A longer frame whose size has been adjusted. -/
def extendFrame (frame extra : ByteString) : ByteString :=
  fixUpFrameSize (frame ++ extra)

/-! ## Bodies -/

section Bodies

variable {α : Type} {encodingId : UInt32} {reader : Decoder α}

theorem readMessageOf_appended {payload extra : ByteString}
    (h : RefusesMore reader payload) (hextra : extra ≠ []) :
    readMessageOf encodingId reader (appendMessage encodingId payload ++ extra) =
      none := by
  have hlonger : appendMessage encodingId payload ++ extra =
      appendMessage encodingId (payload ++ extra) := by
    rw [appendMessage, appendMessage, List.append_assoc]
  rw [hlonger, readMessageOf, readMessage_appendMessage]
  exact (if_pos rfl).trans (h.start hextra)

theorem openRequest_recovers {request : OpenSecureChannelRequest}
    (haudit : request.requestHeader.auditEntryId.length < 2 ^ 31)
    (hnonce : request.clientNonce.length < 2 ^ 31) :
    RecoversExactly encodeOpenSecureChannelRequestBody
      decodeOpenSecureChannelRequestBody (· ++ ·) request where
  recovers := decodeOpenSecureChannelRequestBody_encode haudit hnonce
  refuses extra hextra := by
    refine readMessageOf_appended ?_ hextra
    refine (reads_requestHeader haudit).bind_refusesMore
      ((reads_uInt32 _).bind_refusesMore ((reads_uInt32 _).bind_refusesMore
        ((reads_uInt32 _).bind_refusesMore
          ((reads_byteString hnonce).bind_refusesMore ?_))))
    exact (reads_uInt32 _).bind_refusesMore_nil (RefusesMore.atEnd _)

theorem readsAll_closeRequest {request : CloseSecureChannelRequest}
    (haudit : request.requestHeader.auditEntryId.length < 2 ^ 31) :
    ReadsAll
      (do
        let requestHeader ← readRequestHeader
        Reader.atEnd
        return ({ requestHeader } : CloseSecureChannelRequest))
      (appendRequestHeader request.requestHeader) request :=
  (reads_requestHeader haudit).all.bind
    (ReadsAll.atEnd.bind (Reads.pure request).all)

theorem closeRequest_recovers {request : CloseSecureChannelRequest}
    (haudit : request.requestHeader.auditEntryId.length < 2 ^ 31) :
    RecoversExactly encodeCloseSecureChannelRequestBody
      decodeCloseSecureChannelRequestBody (· ++ ·) request where
  recovers := readMessageOf_appendMessage (readsAll_closeRequest haudit)
  refuses extra hextra := by
    refine readMessageOf_appended ?_ hextra
    exact (reads_requestHeader haudit).bind_refusesMore_nil (RefusesMore.atEnd _)

theorem ResponseHeader.received_eq {header : ResponseHeader}
    (h : header.serviceResult = .good ∨
      header.serviceResult = .ofCode .bad) : header.received = header := by
  have hword : (⟨if header.serviceResult.isGood then 0 else 0x80000000⟩ :
      Status) = header.serviceResult := by
    rcases h with h | h
    · rw [h]
      decide
    · rw [h]
      decide
  rw [ResponseHeader.received, hword]

theorem openResponse_recovers {response : OpenSecureChannelResponse}
    (hresult : response.responseHeader.serviceResult = .good ∨
      response.responseHeader.serviceResult = .ofCode .bad)
    (hnonce : response.serverNonce.length < 2 ^ 31) :
    RecoversExactly encodeOpenSecureChannelResponseBody
      decodeOpenSecureChannelResponseBody (· ++ ·) response where
  recovers := by
    rw [decodeOpenSecureChannelResponseBody_encode hnonce,
      ResponseHeader.received_eq hresult]
  refuses extra hextra := by
    refine readMessageOf_appended ?_ hextra
    refine (reads_responseHeader _).bind_refusesMore
      ((reads_uInt32 _).bind_refusesMore ((reads_uInt32 _).bind_refusesMore
        ((reads_uInt32 _).bind_refusesMore ((reads_int64 _).bind_refusesMore
          ((reads_uInt32 _).bind_refusesMore ?_)))))
    exact (reads_byteString hnonce).bind_refusesMore_nil (RefusesMore.atEnd _)

end Bodies

/-! ## Transport messages -/

section Frames

variable {α : Type} {messageType : MessageType} {decoder : Decoder α}
  {body : ByteString} {value : α}

theorem decodeWithHeader_append {header : FrameHeader}
    (htype : header.messageType = messageType) {after : ByteString}
    (hsize : header.messageSize.toNat = 8 + after.length) :
    decodeWithHeader messageType decoder (encodeFrameHeader header ++ after) =
      (do
        let message ← decoder
        Reader.atEnd
        return message : Decoder α).start after := by
  rw [decodeWithHeader, completeFrameHeader_append hsize,
    List.drop_left' (length_encodeFrameHeader header)]
  simp only [Option.bind_eq_bind, Option.bind_some, guard, if_pos htype]
  rfl

theorem decodeWithHeader_encode (h : Reads decoder body value)
    (hsize : 8 + body.length < 2 ^ 32) :
    decodeWithHeader messageType decoder (encodeWithHeader messageType body) =
      some value := by
  rw [encodeWithHeader, decodeWithHeader_append
    (show (FrameHeader.mk messageType 0x46
      (UInt32.ofNat (8 + body.length))).messageType = messageType from rfl)
    (UInt32.toNat_ofNat_of_lt' hsize)]
  exact (h.all.bind (ReadsAll.atEnd.bind (Reads.pure value).all)).start

/-- A longer frame is refused, whatever its size wraps to. -/
theorem decodeWithHeader_appended (h : Reads decoder body value)
    {extra : ByteString} (hextra : extra ≠ []) :
    decodeWithHeader messageType decoder
      (extendFrame (encodeWithHeader messageType body) extra) = none := by
  rw [extendFrame, encodeWithHeader, List.append_assoc, fixUpFrameSize_append]
  by_cases hsize : 8 + (body ++ extra).length < 2 ^ 32
  · rw [decodeWithHeader_append
      (show (FrameHeader.mk messageType 0x46
        (UInt32.ofNat (8 + (body ++ extra).length))).messageType =
          messageType from rfl)
      (UInt32.toNat_ofNat_of_lt' hsize)]
    exact (h.bind_refusesMore_nil (RefusesMore.atEnd _)).start hextra
  · have hnone : completeFrameHeader (encodeFrameHeader
        { messageType := messageType
          messageSize := UInt32.ofNat (8 + (body ++ extra).length) } ++
            (body ++ extra)) = none := by
      rw [completeFrameHeader, Option.filter_eq_none_iff]
      intro decoded _ hcomplete
      have hlength := beq_iff_eq.mp hcomplete
      have hlt := decoded.messageSize.toNat_lt
      rw [List.length_append, length_encodeFrameHeader] at hlength
      omega
    rw [decodeWithHeader, hnone]
    rfl

theorem recoversExactly_of_reads {encode : α → ByteString}
    (hencode : encode value = encodeWithHeader messageType body)
    (hreads : Reads decoder body value) (hsize : 8 + body.length < 2 ^ 32) :
    RecoversExactly encode (decodeWithHeader messageType decoder) extendFrame value where
  recovers := by
    rw [hencode]
    exact decodeWithHeader_encode hreads hsize
  refuses extra hextra := by
    rw [hencode]
    exact decodeWithHeader_appended hreads hextra

end Frames

theorem hello_recovers {message : HelloMessage}
    (hurl : message.endpointUrl.length < 2 ^ 31) :
    RecoversExactly encodeHelloMessage decodeHelloMessage extendFrame message := by
  refine recoversExactly_of_reads rfl ?_ ?_
  · simp only [List.append_assoc]
    refine (reads_uInt32 _).bind ((reads_uInt32 _).bind ((reads_uInt32 _).bind
      ((reads_uInt32 _).bind ((reads_uInt32 _).bind ?_))))
    exact (reads_byteString hurl).bind_pure (Reads.pure message)
  · simp only [List.length_append, length_encodeUInt32, encodeByteString,
      encodeInt32]
    omega

theorem acknowledge_recovers (message : AcknowledgeMessage) :
    RecoversExactly encodeAcknowledgeMessage decodeAcknowledgeMessage extendFrame
      message := by
  refine recoversExactly_of_reads rfl ?_ ?_
  · simp only [List.append_assoc]
    refine (reads_uInt32 _).bind ((reads_uInt32 _).bind ((reads_uInt32 _).bind
      ((reads_uInt32 _).bind ?_)))
    exact (reads_uInt32 _).bind_pure (Reads.pure message)
  · simp

theorem error_recovers {message : ErrorMessage}
    (hreason : message.reason.length < 2 ^ 31) :
    RecoversExactly encodeErrorMessage decodeErrorMessage extendFrame message := by
  refine recoversExactly_of_reads rfl ?_ ?_
  · exact (reads_uInt32 _).bind
      ((reads_byteString hreason).bind_pure (Reads.pure message))
  · simp only [List.length_append, length_encodeUInt32, encodeByteString,
      encodeInt32]
    omega

/-- Every message of the secure conversation is read back with the size of its
frame, and the bodies of OPN and CLO and the messages of the transport are read
back exactly, and refused with anything appended. -/
theorem messages_recover :
    (∀ message : SecureConversationMessage, message.Encodable →
      decodeSecureConversationMessage (encodeSecureConversationMessage message) =
          some { message with
            frameHeader := { message.frameHeader with
              messageSize := UInt32.ofNat
                (encodeSecureConversationMessage message).length } } ∧
        (UInt32.ofNat (encodeSecureConversationMessage message).length).toNat =
          (encodeSecureConversationMessage message).length) ∧
      (∀ request : OpenSecureChannelRequest,
        request.requestHeader.auditEntryId.length < 2 ^ 31 →
          request.clientNonce.length < 2 ^ 31 →
          RecoversExactly encodeOpenSecureChannelRequestBody
            decodeOpenSecureChannelRequestBody (· ++ ·) request) ∧
      (∀ request : CloseSecureChannelRequest,
        request.requestHeader.auditEntryId.length < 2 ^ 31 →
          RecoversExactly encodeCloseSecureChannelRequestBody
            decodeCloseSecureChannelRequestBody (· ++ ·) request) ∧
      (∀ response : OpenSecureChannelResponse,
        (response.responseHeader.serviceResult = .good ∨
          response.responseHeader.serviceResult = .ofCode .bad) →
          response.serverNonce.length < 2 ^ 31 →
          RecoversExactly encodeOpenSecureChannelResponseBody
            decodeOpenSecureChannelResponseBody (· ++ ·) response) ∧
      (∀ message : HelloMessage, message.endpointUrl.length < 2 ^ 31 →
        RecoversExactly encodeHelloMessage decodeHelloMessage extendFrame
          message) ∧
      (∀ message : AcknowledgeMessage,
        RecoversExactly encodeAcknowledgeMessage decodeAcknowledgeMessage
          extendFrame message) ∧
      ∀ message : ErrorMessage, message.reason.length < 2 ^ 31 →
        RecoversExactly encodeErrorMessage decodeErrorMessage extendFrame
          message := by
  refine ⟨fun message hmessage =>
      ⟨decodeSecureConversationMessage_encode hmessage,
        UInt32.toNat_ofNat_of_lt' hmessage.size⟩,
    fun request haudit hnonce => openRequest_recovers haudit hnonce,
    fun request haudit => closeRequest_recovers haudit,
    fun response hresult hnonce => openResponse_recovers hresult hnonce,
    fun message hurl => hello_recovers hurl, acknowledge_recovers,
    fun message hreason => error_recovers hreason⟩

/-- The request in which a client asks for a channel, with a nonce of two bytes. -/
def sampleOpenRequest : OpenSecureChannelRequest where
  clientNonce := [0x01, 0x02]
  requestedLifetime := 60000

def sampleOpenMessage : SecureConversationMessage where
  frameHeader := { messageType := .secureOpen }
  secureChannelId := 9
  asymmetricSecurityHeader := some { securityPolicyUri := asciiText "urn:policy" }
  sequenceHeader := { sequenceNumber := 1, requestId := 2 }
  body := [0xaa, 0xbb]

/-- One message of each kind, and the bodies of an opening, its answer and a closing. -/
theorem sampleMessages_recover :
    decodeSecureConversationMessage (encodeSecureConversationMessage sampleOpenMessage) =
        some { sampleOpenMessage with
          frameHeader := { messageType := .secureOpen, messageSize := 44 } } ∧
      RecoversExactly encodeOpenSecureChannelRequestBody decodeOpenSecureChannelRequestBody
        (· ++ ·) sampleOpenRequest ∧
      RecoversExactly encodeCloseSecureChannelRequestBody decodeCloseSecureChannelRequestBody
        (· ++ ·) { requestHeader := { auditEntryId := asciiText "audit" } } ∧
      RecoversExactly encodeOpenSecureChannelResponseBody decodeOpenSecureChannelResponseBody
        (· ++ ·) { serverNonce := [0x03] } ∧
      RecoversExactly encodeHelloMessage decodeHelloMessage extendFrame
        { endpointUrl := asciiText "opc.tcp://plant:4840" } ∧
      RecoversExactly encodeErrorMessage decodeErrorMessage extendFrame
        { reason := asciiText "closed" } := by
  obtain ⟨hmessage, hrequest, hclose, hresponse, hhello, -, herror⟩ := messages_recover
  have hencodable : sampleOpenMessage.Encodable := by
    refine ⟨fun _ => ⟨rfl, _, rfl, by decide, by decide, by decide⟩, fun h => ?_, by decide⟩
    exact absurd rfl h
  have hsize : UInt32.ofNat (encodeSecureConversationMessage sampleOpenMessage).length = 44 := by
    decide
  have hopen := (hmessage sampleOpenMessage hencodable).1
  rw [hsize] at hopen
  refine ⟨hopen, hrequest _ ?_ ?_, hclose _ ?_, hresponse _ (.inl rfl) ?_, hhello _ ?_,
    herror _ ?_⟩
  all_goals decide

end Binary
end OpcuaStack
