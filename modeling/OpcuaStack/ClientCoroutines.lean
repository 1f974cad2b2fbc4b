import OpcuaStack.ClientSession
import OpcuaStack.ReceiveRuns

/-!
# One coroutine of the client runs

No step of a coroutine loses another one: each is still in the objects of the
connection, or has returned from its call.  And the read loop is there only for the
callers in `Receive`, so that it has ended once they have returned.
-/

namespace OpcuaStack

theorem map_set_of_eq {β γ : Type} (f : β → γ) {elements : List β} {index : ℕ}
    {element : β} (other : β) (helement : elements[index]? = some element)
    (hother : f other = f element) :
    (elements.set index other).map f = elements.map f := by
  obtain ⟨hlt, rfl⟩ := List.getElem?_eq_some_iff.mp helement
  refine List.ext_getElem? fun place => ?_
  rw [List.getElem?_map, List.getElem?_map, List.getElem?_set]
  split
  next heq =>
    subst heq
    simp [hlt, hother]
  next => rfl

/-! ## The senders -/

section Senders

variable {ρ α : Type} [DecidableEq ρ]

namespace ClientChannel

theorem releaseSendTurn_senders (ch : ClientChannel ρ α) :
    ch.releaseSendTurn.senders.Perm ch.senders := by
  unfold senders releaseSendTurn
  refine List.perm_iff_count.mpr fun sender => ?_
  cases ch.sendWaiters with
  | nil => simp
  | cons first rest =>
      simp only [List.tail_cons, List.head?_cons, Option.toList_some, List.map_append,
        List.map_cons, List.map_nil, List.count_append, List.count_cons, List.count_nil]
      omega

theorem senders_eraseIdx {ch : ClientChannel ρ α} {index : ℕ} {send : ActiveSend ρ}
    (hsend : ch.activeSends[index]? = some send) :
    (send.message.body ::
      { ch with activeSends := ch.activeSends.eraseIdx index }.senders).Perm
        ch.senders := by
  obtain ⟨hlt, rfl⟩ := List.getElem?_eq_some_iff.mp hsend
  have hsends := (List.getElem_cons_eraseIdx_perm hlt).map
    fun send : ActiveSend ρ => send.message.body
  refine List.perm_iff_count.mpr fun sender => ?_
  have hcount := hsends.count_eq sender
  simp only [senders, List.map_cons, List.count_append, List.count_cons] at hcount ⊢
  omega

omit [DecidableEq ρ] in
theorem endReadLoop_senders (ch : ClientChannel ρ α) (index : ℕ) :
    (ch.endReadLoop index).senders = ch.senders := by
  unfold endReadLoop
  dsimp only
  split
  · rfl
  · unfold ensureReadLoop
    split <;> rfl

omit [DecidableEq ρ] in
theorem continueReadLoop_senders (ch : ClientChannel ρ α) (index : ℕ) :
    (ch.continueReadLoop index).senders = ch.senders := by
  unfold continueReadLoop
  split
  · exact endReadLoop_senders ch index
  · rfl

omit [DecidableEq ρ] in
theorem deliverResponse_senders (ch : ClientChannel ρ α)
    (frame : ClientResponseFrame α) :
    (ch.deliverResponse frame).senders = ch.senders := by
  unfold deliverResponse
  split
  · rfl
  · split <;> rfl

omit [DecidableEq ρ] in
theorem senders_set {ch : ClientChannel ρ α} {index : ℕ} {send : ActiveSend ρ}
    (later : ActiveSend ρ)
    (hsend : ch.activeSends[index]? = some send)
    (hmessage : later.message = send.message) :
    { ch with activeSends := ch.activeSends.set index later }.senders =
      ch.senders := by
  have hset := map_set_of_eq (fun send : ActiveSend ρ => send.message.body)
    later hsend (by rw [hmessage])
  simp only [senders, hset]

theorem senders_wake {ch : ClientChannel ρ α} {index : ℕ} {message : ClientRequest ρ}
    (hmessage : ch.wokenSenders[index]? = some message) :
    (message.body ::
      { ch with wokenSenders := ch.wokenSenders.eraseIdx index }.senders).Perm
        ch.senders := by
  obtain ⟨hlt, rfl⟩ := List.getElem?_eq_some_iff.mp hmessage
  have hsends := (List.getElem_cons_eraseIdx_perm hlt).map
    (ClientRequest.body (ρ := ρ))
  refine List.perm_iff_count.mpr fun sender => ?_
  have hcount := hsends.count_eq sender
  simp only [senders, List.map_cons, List.count_append, List.count_cons] at hcount ⊢
  omega

end ClientChannel

namespace ClientLink

theorem startRequest_senders (l : ClientLink ρ α) (message : ClientRequest ρ) :
    (l.startRequest message).channel.senders.Perm
      (message.body :: l.channel.senders) := by
  refine List.perm_iff_count.mpr fun sender => ?_
  simp only [startRequest, ClientChannel.senders, List.map_append, List.map_cons,
    List.map_nil, List.count_append, List.count_cons, List.count_nil]
  omega

theorem startRenewal_senders (l : ClientLink ρ α) (message : ClientRequest ρ) :
    (l.startRenewal message).channel.senders.Perm
      (message.body :: l.channel.senders) := by
  refine List.perm_iff_count.mpr fun sender => ?_
  simp only [startRenewal, ClientChannel.senders, List.map_append, List.map_cons,
    List.map_nil, List.count_append, List.count_cons, List.count_nil]
  omega

theorem takeTurn_senders (l : ClientLink ρ α) (message : ClientRequest ρ) (due : Bool) :
    (l.takeTurn message due).channel.senders.Perm
      (message.body :: l.channel.senders) := by
  unfold takeTurn
  split
  next =>
    refine List.perm_iff_count.mpr fun sender => ?_
    simp only [ClientChannel.senders, List.map_append, List.map_cons, List.map_nil,
      List.count_append, List.count_cons, List.count_nil]
    omega
  next =>
    dsimp only
    split
    · exact startRenewal_senders _ message
    · exact startRequest_senders _ message

theorem finishSend_senders {l : ClientLink ρ α} {index : ℕ} {send : ActiveSend ρ}
    (hsend : l.channel.activeSends[index]? = some send) :
    (send.message.body :: (l.finishSend index).channel.senders).Perm
      l.channel.senders :=
  ((ClientChannel.releaseSendTurn_senders _).cons _).trans
    (ClientChannel.senders_eraseIdx hsend)

end ClientLink
end Senders

namespace KeyedMap

variable {κ β : Type} [DecidableEq κ]

theorem flatMap_entries_perm (m : KeyedMap κ (List β)) (k : κ) :
    (m.entries.flatMap Sigma.snd).Perm
      ((m.lookup k).getD [] ++ (m.erase k).entries.flatMap Sigma.snd) := by
  cases hlookup : m.lookup k with
  | none =>
      rw [show m.erase k = m from AList.ext
        (List.kerase_of_notMem_keys (AList.lookup_eq_none.mp hlookup))]
      rfl
  | some values => exact (entries_perm_erase hlookup).flatMap_right _

theorem flatMap_entries_insert (m : KeyedMap κ (List β)) (k : κ) (values : List β) :
    (m.insert k values).entries.flatMap Sigma.snd =
      values ++ (m.erase k).entries.flatMap Sigma.snd := by
  rw [AList.entries_insert, List.flatMap_cons]
  rfl

end KeyedMap

/-! ## The read loop -/

namespace ClientStack

/-- The read loop is there for the callers in `Receive`: those which wait have their
pending responses, and no loop runs without one of them or without a caller whose
pending response was erased. -/
structure ReadsForCallers (k : ClientStack) : Prop where
  serves : k.link.channel.LoopServes
  keys : k.waiting.keys = k.link.channel.pendingResponses.keys
  held : ∀ requestId coroutines,
    k.waiting.lookup requestId = some coroutines → coroutines ≠ []
  needed : k.link.channel.readLoops ≠ [] →
    k.link.channel.pendingResponses.keys ≠ [] ∨ k.lost ≠ []

theorem ReadsForCallers.of_same {k next : ClientStack} (h : k.ReadsForCallers)
    (hlink : ClientLink.SameReaders k.link next.link)
    (hwaiting : next.waiting = k.waiting) (hlost : next.lost = k.lost) :
    next.ReadsForCallers where
  serves := hlink.loopServes h.serves
  keys := by rw [hwaiting, hlink.pending, h.keys]
  held := by rw [hwaiting]; exact h.held
  needed := by
    rw [hlink.loops, hlink.pending, hlost]
    exact h.needed

theorem ReadsForCallers.readLoops_eq_nil {k : ClientStack} (h : k.ReadsForCallers)
    (hreceivers : k.receivers = []) : k.link.channel.readLoops = [] := by
  by_contra hloops
  simp only [receivers, List.append_eq_nil_iff, List.flatMap_eq_nil_iff] at hreceivers
  obtain ⟨⟨hwaiting, -⟩, hlost⟩ := hreceivers
  refine (h.needed hloops).elim (fun hkeys => hkeys ?_) fun hne => hne hlost
  rw [← h.keys]
  change k.waiting.entries.map Sigma.fst = []
  rw [List.map_eq_nil_iff, List.eq_nil_iff_forall_not_mem]
  intro entry hmem
  exact h.held entry.1 entry.2 (KeyedMap.mem_entries_iff.mp hmem) (hwaiting entry hmem)


/-! ## One coroutine runs -/

/-- One coroutine has run in a stack: the coroutines given are in the stack or have
returned from their calls. -/
structure Runs (k : ClientStack) (coroutines : List ClientCoroutine)
    (r : ClientStack × CallReturn) : Prop where
  coroutines : (r.2.toList.map Prod.fst ++ r.1.coroutines).Perm coroutines
  sound : k.ReadsForCallers → r.1.ReadsForCallers

theorem coroutines_perm_of_senders {k next : ClientStack}
    (more fewer : List ClientCoroutine)
    (hsenders : (more ++ next.link.channel.senders).Perm
      (fewer ++ k.link.channel.senders))
    (hreceivers : next.receivers = k.receivers)
    (hconnecting : next.connecting = k.connecting) :
    (more ++ next.coroutines).Perm (fewer ++ k.coroutines) := by
  refine List.perm_iff_count.mpr fun coroutine => ?_
  have hcount := hsenders.count_eq coroutine
  simp only [coroutines, hreceivers, hconnecting, List.count_append] at hcount ⊢
  omega

theorem coroutines_perm_of_receivers {k next : ClientStack}
    (more fewer : List ClientCoroutine)
    (hsenders : next.link.channel.senders = k.link.channel.senders)
    (hreceivers : (more ++ next.receivers).Perm (fewer ++ k.receivers))
    (hconnecting : next.connecting = k.connecting) :
    (more ++ next.coroutines).Perm (fewer ++ k.coroutines) := by
  refine List.perm_iff_count.mpr fun coroutine => ?_
  have hcount := hreceivers.count_eq coroutine
  simp only [coroutines, hsenders, hconnecting, List.count_append] at hcount ⊢
  omega

theorem takeTurn_runs (k : ClientStack) (message : ClientRequest ClientCoroutine)
    (due : Bool) :
    k.Runs (message.body :: k.coroutines) (k.takeTurn message due) := by
  unfold takeTurn
  split
  · refine ⟨coroutines_perm_of_senders [] [message.body]
      (k.link.takeTurn_senders message _) rfl rfl, fun h => ?_⟩
    exact h.of_same (k.link.takeTurn_sameReaders message _) rfl rfl
  · refine ⟨coroutines_perm_of_senders [message.body] [message.body]
      (k.link.channel.releaseSendTurn_senders.cons _) rfl rfl, fun h => ?_⟩
    exact h.of_same ⟨⟨rfl, rfl, rfl, rfl, rfl⟩, rfl, rfl⟩ rfl rfl

theorem send_runs (k : ClientStack) (coroutine : ClientCoroutine) (due : Bool) :
    k.Runs (coroutine :: k.coroutines) (k.send coroutine due) := by
  have hturn := takeTurn_runs { k with nextRequestHandle := k.nextRequestHandle + 1 }
    { requestHandle := k.nextRequestHandle, body := coroutine } due
  exact ⟨hturn.coroutines, fun h => hturn.sound (h.of_same ⟨⟨rfl, rfl, rfl, rfl, rfl⟩, rfl, rfl⟩ rfl rfl)⟩


theorem receive_runs (k : ClientStack) (coroutine : ClientCoroutine)
    (requestId requestHandle : UInt32) :
    k.Runs (coroutine :: k.coroutines)
      (k.receive coroutine requestId requestHandle) := by
  unfold receive
  dsimp only
  cases hbuffered : k.link.channel.bufferedResponses.lookup requestId with
  | some buffered =>
      have hreceive : (k.link.channel.receive requestId requestHandle).senders =
            k.link.channel.senders ∧
          (k.link.channel.receive requestId requestHandle).pendingResponses =
            k.link.channel.pendingResponses ∧
          (k.link.channel.receive requestId requestHandle).readLoops =
            k.link.channel.readLoops := by
        simp only [ClientChannel.receive, hbuffered]
        split <;> exact ⟨rfl, rfl, rfl⟩
      refine ⟨?_, fun h => ?_⟩
      · refine coroutines_perm_of_senders [coroutine] [coroutine] ?_ rfl rfl
        rw [hreceive.1]
      · exact
          { serves := h.serves.receive requestId requestHandle
            keys := h.keys.trans (congrArg AList.keys hreceive.2.1).symm
            held := h.held
            needed := by
              dsimp only
              rw [hreceive.2.1, hreceive.2.2]
              exact h.needed }
  | none =>
      have hreceive : (k.link.channel.receive requestId requestHandle).senders =
            k.link.channel.senders ∧
          (k.link.channel.receive requestId requestHandle).pendingResponses.keys =
            requestId :: k.link.channel.pendingResponses.keys.erase requestId := by
        simp only [ClientChannel.receive, hbuffered, ClientChannel.ensureReadLoop]
        split <;> exact ⟨rfl, AList.keys_insert _⟩
      refine ⟨?_, fun h => ?_⟩
      · refine coroutines_perm_of_receivers [] [coroutine] hreceive.1 ?_ rfl
        refine List.perm_iff_count.mpr fun other => ?_
        have hcount := (k.waiting.flatMap_entries_perm requestId).count_eq other
        simp only [receivers, KeyedMap.flatMap_entries_insert, List.count_append,
          List.count_nil] at hcount ⊢
        omega
      · exact
          { serves := h.serves.receive requestId requestHandle
            keys := by
              dsimp only
              rw [hreceive.2, AList.keys_insert, h.keys]
            held := by
              intro other coroutines hlookup
              dsimp only at hlookup
              rw [KeyedMap.lookup_insert_eq] at hlookup
              split at hlookup
              · cases hlookup
                simp
              · exact h.held other coroutines hlookup
            needed := fun _ => .inl (by rw [hreceive.2]; exact List.cons_ne_nil _ _) }

theorem publish_runs (k : ClientStack) (due : Bool) :
    k.Runs (.publish :: k.coroutines) (k.publish due) := by
  unfold publish
  split
  next => exact k.send_runs .publish due
  next requestId requestHandle rest hrest =>
    split
    · exact k.send_runs .publish due
    · have hreceive := receive_runs
        { k with
          subscription :=
            { k.subscription with outstandingPublishes := rest } }
        .publish requestId requestHandle
      exact ⟨hreceive.coroutines, fun h => hreceive.sound
        (h.of_same (.refl _) rfl rfl)⟩

theorem sent_runs (k : ClientStack) (message : ClientRequest ClientCoroutine)
    (requestId : UInt32) (due : Bool) :
    k.Runs (message.body :: k.coroutines) (k.sent message requestId due) := by
  unfold sent
  split
  next hbody =>
    rw [hbody]
    have hpublish := publish_runs
      { k with
        subscription :=
          { k.subscription with
            outstandingPublishes := k.subscription.outstandingPublishes ++
              [(requestId, message.requestHandle)] } } due
    exact ⟨hpublish.coroutines, fun h => hpublish.sound
      (h.of_same (.refl _) rfl rfl)⟩
  next => exact k.receive_runs message.body requestId message.requestHandle

/-! ### Calls which return at once -/

def refuses (k : ClientStack) : Bool := !(k.opened || k.link.channel.sendInProgress)

theorem takeTurn_snd (k : ClientStack) (message : ClientRequest ClientCoroutine)
    (due : Bool) :
    (k.takeTurn message due).2 =
      if k.refuses then some (message.body, .ofCode .badNoCommunication) else none := by
  unfold takeTurn refuses
  cases k.opened || k.link.channel.sendInProgress <;> rfl

theorem send_snd (k : ClientStack) (coroutine : ClientCoroutine) (due : Bool) :
    (k.send coroutine due).2 =
      if k.refuses then some (coroutine, .ofCode .badNoCommunication) else none :=
  takeTurn_snd ..

theorem send_returns {k : ClientStack} {coroutine other : ClientCoroutine}
    {due : Bool} {status : Status}
    (h : (k.send coroutine due).2 = some (other, status)) : other = coroutine := by
  rw [send_snd] at h
  split at h
  · cases h
    rfl
  · cases h

theorem receive_returns {k : ClientStack} {coroutine other : ClientCoroutine}
    {requestId requestHandle : UInt32} {status : Status}
    (h : (k.receive coroutine requestId requestHandle).2 = some (other, status)) :
    other = coroutine := by
  unfold receive at h
  dsimp only at h
  split at h
  · cases h
    rfl
  · cases h

theorem publish_returns {k : ClientStack} {other : ClientCoroutine} {due : Bool}
    {status : Status} (h : (k.publish due).2 = some (other, status)) :
    other = .publish := by
  unfold publish at h
  split at h
  · exact send_returns h
  · split at h
    · exact send_returns h
    · exact receive_returns h

/-! ### The suspended sends -/

theorem Runs.of_link {k : ClientStack} {coroutine : ClientCoroutine}
    {link : ClientLink ClientCoroutine Status}
    (hlink : ClientLink.SameReaders k.link link)
    (hsenders : (coroutine :: link.channel.senders).Perm k.link.channel.senders)
    {r : ClientStack × CallReturn}
    (h : { k with link }.Runs (coroutine :: { k with link }.coroutines) r) :
    k.Runs k.coroutines r := by
  have hperm : (coroutine :: { k with link }.coroutines).Perm k.coroutines :=
    coroutines_perm_of_senders [coroutine] [] hsenders rfl rfl
  exact ⟨h.coroutines.trans hperm, fun hk => h.sound (hk.of_same hlink rfl rfl)⟩

theorem Runs.returned (k : ClientStack) (coroutine : ClientCoroutine)
    (status : Status) :
    k.Runs (coroutine :: k.coroutines) (k, some (coroutine, status)) :=
  ⟨.refl _, id⟩

theorem Runs.suspended (k : ClientStack) : k.Runs k.coroutines (k, none) :=
  ⟨.refl _, id⟩

theorem resumeSend_runs (k : ClientStack) (index : ℕ) (due : Bool) :
    k.Runs k.coroutines (k.resumeSend index due) := by
  unfold resumeSend
  split
  next => exact .suspended k
  next message hmessage =>
    have hlink : ClientLink.SameReaders k.link
        { k.link with
          channel :=
            { k.link.channel with
              wokenSenders := k.link.channel.wokenSenders.eraseIdx index } } :=
      ⟨⟨rfl, rfl, rfl, rfl, rfl⟩, rfl, rfl⟩
    exact .of_link hlink (ClientChannel.senders_wake hmessage)
      (takeTurn_runs _ message due)

theorem Runs.of_senders_eq {k : ClientStack}
    {link : ClientLink ClientCoroutine Status}
    (hlink : ClientLink.SameReaders k.link link)
    (hsenders : link.channel.senders = k.link.channel.senders) :
    k.Runs k.coroutines ({ k with link }, none) := by
  refine ⟨coroutines_perm_of_senders [] [] ?_ rfl rfl,
    fun h => h.of_same hlink rfl rfl⟩
  rw [hsenders]

theorem writeFinished_runs (k : ClientStack) (index : ℕ) (due : Bool) :
    k.Runs k.coroutines (k.writeFinished index due) := by
  have hlink : ClientLink.SameReaders k.link (k.link.writeFinished index) :=
    ClientLink.step_sameReaders (.writeFinished index) rfl
  unfold writeFinished
  dsimp only
  split
  next message requestId hsend =>
    refine .of_link hlink ?_ (sent_runs _ message requestId due)
    simp only [ClientLink.writeFinished, hsend]
    exact ClientLink.finishSend_senders hsend
  next hother =>
    refine .of_senders_eq hlink ?_
    unfold ClientLink.writeFinished
    split
    next message hsend =>
      exact ClientChannel.senders_set { message, stage := .readingOpen }
        hsend rfl
    next message requestId hsend => exact absurd hsend (hother _ _)
    next => rfl

theorem writeFailed_runs (k : ClientStack) (index : ℕ) (status : Status) :
    k.Runs k.coroutines (k.writeFailed index status) := by
  have hlink : ClientLink.SameReaders k.link (k.link.writeFailed index status) :=
    ClientLink.step_sameReaders (.writeFailed index status) rfl
  unfold writeFailed
  split
  next => exact .suspended k
  next => exact .suspended k
  next message stage hreading hsend =>
    refine .of_link hlink ?_ (.returned _ message.body status)
    unfold ClientLink.writeFailed
    cases stage with
    | writingOpen =>
        rw [hsend]
        exact ClientLink.finishSend_senders hsend
    | writingRequest requestId =>
        rw [hsend]
        exact ClientLink.finishSend_senders hsend
    | readingOpen => exact absurd rfl hreading

theorem renewalReads_runs (k : ClientStack) (index : ℕ) :
    k.Runs k.coroutines (k.renewalReads index) := by
  have hlink : ClientLink.SameReaders k.link (k.link.renewalReads index) :=
    ClientLink.step_sameReaders (.renewalReads index) rfl
  unfold renewalReads
  split
  next message frame rest hsend hincoming =>
    dsimp only
    split
    next hbad =>
      refine .of_link hlink ?_ (.returned _ message.body _)
      simp only [ClientLink.renewalReads, hsend, hincoming, if_pos hbad]
      exact ClientLink.finishSend_senders hsend
    next hgood =>
      refine ⟨coroutines_perm_of_senders [] [] ?_ rfl rfl,
        fun h => h.of_same hlink rfl rfl⟩
      simp only [ClientLink.renewalReads, hsend, hincoming, if_neg hgood]
      exact (ClientLink.startRequest_senders _ message).trans
        (ClientChannel.senders_eraseIdx hsend)
  next => exact .suspended k

theorem renewalReadFailed_runs (k : ClientStack) (index : ℕ) (status : Status) :
    k.Runs k.coroutines (k.renewalReadFailed index status) := by
  have hlink : ClientLink.SameReaders k.link
      (k.link.renewalReadFailed index status) :=
    ClientLink.step_sameReaders (.renewalReadFailed index status) rfl
  unfold renewalReadFailed
  split
  next message hsend =>
    refine .of_link hlink ?_ (.returned _ message.body status)
    unfold ClientLink.renewalReadFailed
    rw [hsend]
    exact ClientLink.finishSend_senders hsend
  next => exact .suspended k

/-! ### The suspended receives and the read loop -/

theorem resumeReceive_runs (k : ClientStack) (index : ℕ) :
    k.Runs k.coroutines (k.resumeReceive index) := by
  unfold resumeReceive
  split
  next coroutine requestId outcome hready houtcome =>
    have hchannel : k.link.channel.resumeReceive index =
        { k.link.channel with
          pendingResponses := k.link.channel.pendingResponses.erase requestId
          readyReceives := k.link.channel.readyReceives.eraseIdx index } := by
      simp only [ClientChannel.resumeReceive, houtcome]
    refine ⟨?_, fun h => ?_⟩
    · refine coroutines_perm_of_receivers [coroutine] []
        (by rw [hchannel]; rfl) ?_ rfl
      obtain ⟨hlt, rfl⟩ := List.getElem?_eq_some_iff.mp hready
      refine List.perm_iff_count.mpr fun other => ?_
      have hwaiting := (k.waiting.flatMap_entries_perm requestId).count_eq other
      have hleft := (List.getElem_cons_eraseIdx_perm hlt).count_eq other
      simp only [receivers, List.count_append, List.count_cons, List.count_nil]
        at hwaiting hleft ⊢
      omega
    · exact
        { serves := h.serves.resumeReceive index
          keys := by
            dsimp only
            rw [hchannel, AList.keys_erase, AList.keys_erase, h.keys]
          held := by
            intro other coroutines hlookup
            dsimp only at hlookup
            rw [KeyedMap.lookup_erase_eq] at hlookup
            split at hlookup
            · cases hlookup
            · exact h.held other coroutines hlookup
          needed := by
            dsimp only
            rw [hchannel, AList.keys_erase]
            intro hloops
            cases hlookup : k.waiting.lookup requestId with
            | none =>
                have habsent : requestId ∉ k.link.channel.pendingResponses.keys := by
                  rw [← h.keys]
                  exact AList.lookup_eq_none.mp hlookup
                rw [List.erase_of_not_mem habsent, Option.getD_none,
                  List.append_nil]
                exact h.needed hloops
            | some coroutines =>
                refine .inr fun hnil => ?_
                exact h.held requestId coroutines hlookup
                  (List.append_eq_nil_iff.mp hnil).2 }
  next => exact .suspended k

theorem Runs.trans {k next : ClientStack} {coroutines : List ClientCoroutine}
    {r : ClientStack × CallReturn} (h : k.Runs coroutines (next, none))
    (hnext : next.Runs next.coroutines r) : k.Runs coroutines r :=
  ⟨hnext.coroutines.trans h.coroutines, fun hk => hnext.sound (h.sound hk)⟩

theorem failRead_runs (k : ClientStack) {index : ℕ} {loop : ReadLoop}
    (hloop : k.link.channel.readLoops[index]? = some loop) (status : Status) :
    k.Runs k.coroutines
      ({ k with link := k.link.failRead index status }.completeAll, none) := by
  refine ⟨coroutines_perm_of_receivers [] []
    (ClientChannel.endReadLoop_senders _ index) ?_ rfl, fun h => ?_⟩
  · refine List.perm_iff_count.mpr fun coroutine => ?_
    simp only [receivers, completeAll, List.count_append, List.count_nil]
    change _ + (List.count coroutine [] + _ + _) = _
    simp only [List.count_nil]
    omega
  · obtain ⟨hloops, rfl, -⟩ :=
      ClientLink.eq_singleton_of_getElem? h.serves.loops hloop
    have hchannel := ClientLink.endReadLoop_failPendingResponses hloops status
    exact
      { serves := .fail hloops status
        keys := by
          change [] = ((k.link.channel.failPendingResponses status).endReadLoop
            0).pendingResponses.keys
          rw [hchannel]
          rfl
        held := by
          intro requestId coroutines hlookup
          cases hlookup
        needed := by
          change ((k.link.channel.failPendingResponses status).endReadLoop
            0).readLoops ≠ [] → _
          rw [hchannel]
          exact fun hne => absurd rfl hne }

theorem refuseRead_runs (k : ClientStack) (index : ℕ) :
    k.Runs k.coroutines (k.refuseRead index, none) := by
  unfold refuseRead
  split
  next => exact .suspended k
  next =>
    split
    next hloop => exact failRead_runs k hloop _
    next => exact .suspended k

theorem loopReadFailed_runs (k : ClientStack) (index : ℕ) (status : Status) :
    k.Runs k.coroutines (k.loopReadFailed index status, none) := by
  unfold loopReadFailed
  split
  next chunkIndex hloop =>
    rw [show k.link.loopReadFailed index status = k.link.failRead index status by
      simp only [ClientLink.loopReadFailed, hloop]]
    exact failRead_runs k hloop status
  next => exact .suspended k

/-- After the head of the loop, a loop is left only while a response is pending. -/
theorem needed_continueReadLoop {ch : ClientChannel ClientCoroutine Status}
    {loop : ReadLoop} (hloops : ch.readLoops = [loop])
    (hne : (ch.continueReadLoop 0).readLoops ≠ []) :
    (ch.continueReadLoop 0).pendingResponses.keys ≠ [] := by
  rcases ClientLink.continueReadLoop_cases hloops with
    ⟨_, hnext⟩ | ⟨hpending, hnext⟩
  · rw [hnext] at hne
    exact absurd rfl hne
  · rw [hnext]
    intro hkeys
    have hentries : ch.pendingResponses.entries = [] := List.map_eq_nil_iff.mp hkeys
    rw [ClientChannel.noPendingResponses, hentries] at hpending
    cases hpending

theorem startReadLoop_runs (k : ClientStack) (index : ℕ) :
    k.Runs k.coroutines (k.startReadLoop index, none) := by
  unfold startReadLoop
  split
  next hloop =>
    suffices hruns : k.Runs k.coroutines
        ({ k with link := k.link.startReadLoop index }, none) from
      hruns.trans (refuseRead_runs _ index)
    have hstart : k.link.startReadLoop index =
        { k.link with channel := k.link.channel.continueReadLoop index } := by
      simp only [ClientLink.startReadLoop, hloop]
    rw [hstart]
    refine ⟨coroutines_perm_of_senders [] [] ?_ rfl rfl,
      fun h => ?_⟩
    · exact .of_eq (ClientChannel.continueReadLoop_senders _ index)
    · obtain ⟨hloops, rfl, hrunning⟩ :=
        ClientLink.eq_singleton_of_getElem? h.serves.loops hloop
      have hmaps := ClientChannel.continueReadLoop_sameMaps k.link.channel 0
      exact
        { serves := .continueReadLoop hloops hrunning
          keys := h.keys.trans (congrArg AList.keys hmaps.pending).symm
          held := h.held
          needed := fun hne => .inl (needed_continueReadLoop hloops hne) }
  next => exact .suspended k

theorem keys_deliverResponse (ch : ClientChannel ClientCoroutine Status)
    (frame : ClientResponseFrame Status) :
    (ch.deliverResponse frame).pendingResponses.keys =
      ch.pendingResponses.keys.erase frame.requestId := by
  unfold ClientChannel.deliverResponse
  split
  next => exact AList.keys_erase ..
  next hnone =>
    rw [List.erase_of_not_mem (AList.lookup_eq_none.mp hnone)]
    split <;> rfl

theorem deliver_runs (k : ClientStack) {index : ℕ} {loop : ReadLoop}
    (hloop : k.link.channel.readLoops[index]? = some loop)
    (response : ClientResponseFrame Status)
    {link : ClientLink ClientCoroutine Status}
    (hlink : link.channel =
      (k.link.channel.deliverResponse response).continueReadLoop index) :
    k.Runs k.coroutines
      ({ k with link }.completeOne response.requestId, none) := by
  refine ⟨coroutines_perm_of_receivers [] [] ?_ ?_ rfl,
    fun h => ?_⟩
  · change link.channel.senders = _
    rw [hlink, ClientChannel.continueReadLoop_senders,
      ClientChannel.deliverResponse_senders]
  · refine List.perm_iff_count.mpr fun coroutine => ?_
    have hwaiting :=
      (k.waiting.flatMap_entries_perm response.requestId).count_eq coroutine
    simp only [receivers, completeOne, List.count_append, List.count_nil]
      at hwaiting ⊢
    omega
  · obtain ⟨hloops, rfl, hrunning⟩ :=
      ClientLink.eq_singleton_of_getElem? h.serves.loops hloop
    have hsame := ClientLink.deliverResponse_coroutines k.link.channel response
    have hdelivered := hsame.readLoops.trans hloops
    have hmaps := ClientChannel.continueReadLoop_sameMaps
      (k.link.channel.deliverResponse response) 0
    refine { serves := ?_, keys := ?_, held := ?_, needed := ?_ }
    · change link.channel.LoopServes
      rw [hlink]
      exact .continueReadLoop hdelivered (hsame.readLoopRunning.trans hrunning)
    · change (k.waiting.erase response.requestId).keys =
        link.channel.pendingResponses.keys
      rw [hlink, hmaps.pending, keys_deliverResponse, AList.keys_erase, h.keys]
    · intro requestId coroutines hlookup
      change (k.waiting.erase response.requestId).lookup requestId = _ at hlookup
      rw [KeyedMap.lookup_erase_eq] at hlookup
      split at hlookup
      · cases hlookup
      · exact h.held requestId coroutines hlookup
    · change link.channel.readLoops ≠ [] →
        link.channel.pendingResponses.keys ≠ [] ∨ _
      rw [hlink]
      exact fun hne => .inl (needed_continueReadLoop hdelivered hne)

/-- The loop has taken a frame for which it fails. -/
theorem failTaken_runs (k : ClientStack) {index : ℕ} {loop : ReadLoop}
    (hloop : k.link.channel.readLoops[index]? = some loop)
    (rest : List (WireFrame Status)) (status : Status) :
    k.Runs k.coroutines
      ({ k with
          link := { k.link with incoming := rest }.failRead index status
        }.completeAll, none) := by
  have hfail := failRead_runs { k with link := { k.link with incoming := rest } }
    hloop status
  exact ⟨hfail.coroutines, fun h => hfail.sound
    (h.of_same ⟨⟨rfl, rfl, rfl, rfl, rfl⟩, rfl, rfl⟩ rfl rfl)⟩

theorem loopReads_runs (k : ClientStack) (index : ℕ) :
    k.Runs k.coroutines (k.loopReads index, none) := by
  unfold loopReads
  split
  next chunkIndex frame rest hloop hincoming =>
    cases frame with
    | openResponse serviceResult =>
        simp only [ClientLink.loopReads, hloop, hincoming]
        exact failTaken_runs k hloop rest _
    | intermediateChunk requestId =>
        simp only [ClientLink.loopReads, hloop, hincoming]
        split
        next => exact failTaken_runs k hloop rest _
        next =>
          refine ⟨coroutines_perm_of_senders [] []
            (.refl _) rfl rfl, fun h => ?_⟩
          obtain ⟨hloops, rfl, hrunning⟩ :=
            ClientLink.eq_singleton_of_getElem? h.serves.loops hloop
          exact
            { serves :=
                { loops := by
                    dsimp only
                    rw [List.length_set]
                    exact h.serves.loops
                  idle := h.serves.idle }
              keys := h.keys
              held := h.held
              needed := fun _ => h.needed (by rw [hloops]; exact List.cons_ne_nil _ _) }
    | finalChunk response =>
        refine .trans (deliver_runs k hloop response ?_) (refuseRead_runs _ index)
        simp only [ClientLink.loopReads, hloop, hincoming]
  next => exact .suspended k

theorem advance_runs (k : ClientStack) (due : Bool) (event : ChannelEvent) :
    k.Runs k.coroutines (k.advance due event) := by
  cases event with
  | resumeSend index => exact k.resumeSend_runs index due
  | writeFinished index => exact k.writeFinished_runs index due
  | writeFailed index status => exact k.writeFailed_runs index status
  | renewalReads index => exact k.renewalReads_runs index
  | renewalReadFailed index status => exact k.renewalReadFailed_runs index status
  | resumeReceive index => exact k.resumeReceive_runs index
  | startReadLoop index => exact k.startReadLoop_runs index
  | loopReads index => exact k.loopReads_runs index
  | loopReadFailed index status => exact k.loopReadFailed_runs index status
  | answer index chunks body =>
      refine .of_senders_eq
        (ClientLink.step_sameReaders (.answer index chunks body) rfl) ?_
      unfold ClientLink.answer
      split <;> rfl
  | answerRenewal serviceResult =>
      refine .of_senders_eq
        (ClientLink.step_sameReaders (.answerRenewal serviceResult) rfl) ?_
      unfold ClientLink.answerRenewal
      split <;> rfl

end ClientStack
end OpcuaStack
