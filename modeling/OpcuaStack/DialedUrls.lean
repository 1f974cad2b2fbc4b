import Mathlib.Data.List.TakeWhile
import OpcuaStack.EndpointUrls
import OpcuaStack.JsonVariants

/-!
# The URLs a client dials

`client/endpoint_url.cpp`.  The client cuts the authority of a URL at its last colon,
and the server at the bracket or at the first one.  The port is added up in an `int`
without a bound.
-/

namespace OpcuaStack

open TextScan
open Json (isDigit digitsValue)

structure ParsedEndpointUrl where
  host : ByteText := []
  port : ℕ := 4840
  valid : Bool := false
deriving DecidableEq

def opcTcpPrefix : ByteText := asciiText "opc.tcp://"

/-- The loop over the port.  No value at all is an overflow of the `int`, and `none` a
character which is no digit. -/
def readPort : ByteText → ℕ → Option (Option ℕ)
  | [], port => some (some port)
  | character :: rest, port =>
      if isDigit character then
        let next := 10 * port + (character - 0x30).toNat
        if next < 2 ^ 31 then readPort rest next else none
      else some none

/-- The authority at its last colon. -/
def parseAuthority (authority : ByteText) : Option ParsedEndpointUrl :=
  match cutLast colon authority with
  | none => some { host := authority, valid := !authority.isEmpty }
  | some (host, portText) =>
      if host.isEmpty || portText.isEmpty then some { host }
      else
        match readPort portText 0 with
        | none => none
        | some none => some { host }
        | some (some port) => some { host, port, valid := true }

/-- `ParseOpcTcpUrl`; `none` where it overflows. -/
def parseOpcTcpUrl (url : ByteText) : Option ParsedEndpointUrl :=
  if url.length ≤ opcTcpPrefix.length ∨ url.take opcTcpPrefix.length ≠ opcTcpPrefix then
    some {}
  else
    let start := opcTcpPrefix.length
    parseAuthority ((findFrom [slash] start url).elim (url.drop start) fun path =>
      (url.drop start).take (path - start))

/-! ## The port -/

/-- Digits behind a number which was read already. -/
def digitsFrom (number : ℕ) (digits : ByteText) : ℕ :=
  digits.foldl (fun value digit => 10 * value + (digit - 0x30).toNat) number

theorem le_digitsFrom (number : ℕ) (digits : ByteText) : number ≤ digitsFrom number digits := by
  induction digits generalizing number with
  | nil => exact le_rfl
  | cons digit rest ih => exact le_trans (by omega) (ih (10 * number + (digit - 0x30).toNat))

/-- The loop overflows at the digits in front, whatever stands behind them. -/
theorem readPort_eq (text : ByteText) {number : ℕ} (h : number < 2 ^ 31) :
    readPort text number =
      if digitsFrom number (text.takeWhile isDigit) < 2 ^ 31 then
        some (if text.all isDigit then some (digitsFrom number text) else none)
      else none := by
  induction text generalizing number with
  | nil => exact (if_pos h).symm
  | cons character rest ih =>
      rw [readPort]
      by_cases hdigit : isDigit character
      · rw [if_pos hdigit, List.takeWhile_cons_of_pos hdigit, List.all_cons, hdigit,
          Bool.true_and]
        change _ = if digitsFrom (10 * number + (character - 0x30).toNat)
          (rest.takeWhile isDigit) < 2 ^ 31 then _ else _
        dsimp only
        split
        next hnext => exact ih hnext
        next hnext =>
          have hgrows := le_digitsFrom (10 * number + (character - 0x30).toNat)
            (rest.takeWhile isDigit)
          exact (if_neg (by omega)).symm
      · rw [if_neg hdigit, List.takeWhile_cons_of_neg hdigit, List.all_cons,
          Bool.eq_false_iff.mpr hdigit, Bool.false_and]
        exact (if_pos h).symm

/-! ## Both readings of an authority -/

/-- What may stand behind a host, and the port it stands for. -/
inductive PortWritten : ByteText → ℕ → Prop
  | absent : PortWritten [] 4840
  | digits {digits : ByteText} (hne : digits ≠ []) (hdigits : digits.all isDigit)
      (hbound : digitsValue digits ≤ 65535) :
      PortWritten (colon :: digits) (digitsValue digits)

theorem PortWritten.le {suffix : ByteText} {port : ℕ} (h : PortWritten suffix port) :
    port ≤ 65535 := by
  cases h with
  | absent => decide
  | digits hne hdigits hbound => exact hbound

/-- The client does not overflow, dials the host and the port of the server's reading, and
refuses no host with a port that may be written. -/
def ReadsAlike (authority : ByteText) (parsed : Option ParsedEndpointUrl) : Prop :=
  ∃ result, parsed = some result ∧
    (result.valid → result.host = authorityHost authority ∧
      PortWritten (portSuffix authority) result.port) ∧
    (authorityHost authority ≠ [] → (∃ port, PortWritten (portSuffix authority) port) →
      result.valid)

/-- Nothing stands behind a host without a port.  Behind the last colon there are digits,
which are all that stands behind the host, or something else which starts with no long
number. -/
def CutAlike (authority : ByteText) : Prop :=
  match cutLast colon authority with
  | none => portSuffix authority = []
  | some (before, after) =>
      before = [] ∨ portSuffix authority ≠ [] ∧
        if after ≠ [] ∧ after.all isDigit then
          portSuffix authority = colon :: after ∧ digitsValue after ≤ 65535
        else digitsValue (after.takeWhile isDigit) < 2 ^ 31

theorem authorityHost_append_portSuffix (authority : ByteText) :
    authorityHost authority ++ portSuffix authority = authority :=
  (authoritySplit_authorityHost authority).1

theorem portSuffix_eq_nil_iff (authority : ByteText) :
    portSuffix authority = [] ↔ authority = authorityHost authority := by
  have happend := authorityHost_append_portSuffix authority
  constructor
  · intro hnone
    rw [hnone, List.append_nil] at happend
    exact happend.symm
  · intro hhost
    rw [← hhost] at happend
    exact List.append_right_eq_self.mp happend

theorem eq_of_portWritten {authority before after : ByteText} {port : ℕ}
    (hcut : cutLast colon authority = some (before, after))
    (hwritten : PortWritten (portSuffix authority) port) (hsuffix : portSuffix authority ≠ []) :
    after ≠ [] ∧ after.all isDigit := by
  have happend := authorityHost_append_portSuffix authority
  generalize portSuffix authority = suffix at hwritten hsuffix happend
  cases hwritten with
  | absent => exact absurd rfl hsuffix
  | @digits digits hne hdigits hbound =>
      have hcolon : colon ∉ digits := fun hmem =>
        absurd (List.all_eq_true.mp hdigits colon hmem) (by decide)
      rw [← happend, cutLast_append _ hcolon] at hcut
      obtain ⟨-, rfl⟩ := Prod.mk.inj (Option.some.inj hcut)
      exact ⟨hne, hdigits⟩

theorem readsAlike_without_colon {authority : ByteText}
    (hcut : cutLast colon authority = none) :
    ReadsAlike authority (parseAuthority authority) ↔ portSuffix authority = [] := by
  have hparsed : parseAuthority authority =
      some { host := authority, valid := !authority.isEmpty } := by
    rw [parseAuthority, hcut]
  rw [ReadsAlike, hparsed, portSuffix_eq_nil_iff]
  constructor
  · rintro ⟨result, hresult, hvalid, -⟩
    obtain rfl := Option.some.inj hresult
    cases authority with
    | nil => rfl
    | cons first rest => exact (hvalid rfl).1
  · intro hhost
    refine ⟨_, rfl, fun _ => ⟨hhost, ?_⟩, fun hne _ => ?_⟩
    · rw [(portSuffix_eq_nil_iff authority).mpr hhost]
      exact .absent
    · rw [← hhost] at hne
      simp [hne]

theorem readsAlike_without_host {authority after : ByteText}
    (hcut : cutLast colon authority = some ([], after)) :
    ReadsAlike authority (parseAuthority authority) := by
  obtain ⟨rfl, hafter⟩ := cut_of_cutLast hcut
  have hparsed : parseAuthority ([] ++ colon :: after) = some {} := by
    rw [parseAuthority, hcut]
    rfl
  have hhost : authorityHost ([] ++ colon :: after) = [] :=
    AuthoritySplit.authorityHost (.ported (by decide) List.not_mem_nil hafter)
  rw [hparsed]
  exact ⟨{}, rfl, Bool.noConfusion, fun hne => absurd hhost hne⟩

theorem not_readsAlike_of_bare {authority before after : ByteText}
    (hcut : cutLast colon authority = some (before, after))
    (hsuffix : portSuffix authority = []) :
    ¬ReadsAlike authority (parseAuthority authority) := by
  have hhost := (portSuffix_eq_nil_iff authority).mp hsuffix
  obtain ⟨htext, -⟩ := cut_of_cutLast hcut
  have hshort : before ≠ authorityHost authority := by
    rw [← hhost, htext]
    exact fun hsame => by simpa using congrArg List.length hsame
  rintro ⟨result, hresult, hvalid, haccepts⟩
  have hne : authorityHost authority ≠ [] := by
    rw [← hhost, htext]
    simp
  have hset := haccepts hne ⟨4840, hsuffix ▸ .absent⟩
  have hbefore : result.host = before := by
    rw [parseAuthority, hcut] at hresult
    dsimp only at hresult
    split at hresult
    · exact Option.some.inj hresult ▸ rfl
    · split at hresult
      · cases hresult
      · exact Option.some.inj hresult ▸ rfl
      · exact Option.some.inj hresult ▸ rfl
  exact hshort (hbefore ▸ (hvalid hset).1)

/-- The client's answer, if neither the host nor the port is empty. -/
theorem parseAuthority_port {authority before after : ByteText}
    (hcut : cutLast colon authority = some (before, after)) (hbefore : before ≠ [])
    (hafter : after ≠ []) :
    parseAuthority authority = (readPort after 0).map fun port =>
      port.elim { host := before } fun port => { host := before, port, valid := true } := by
  have hempty : (before.isEmpty || after.isEmpty) = false := by simp [hbefore, hafter]
  rw [parseAuthority, hcut]
  dsimp only
  rw [hempty, if_neg Bool.false_ne_true]
  obtain _ | _ | port := readPort after 0 <;> rfl

theorem readsAlike_digits {authority before after : ByteText}
    (hcut : cutLast colon authority = some (before, after)) (hbefore : before ≠ [])
    (hafter : after ≠ [] ∧ after.all isDigit) :
    ReadsAlike authority (parseAuthority authority) ↔
      portSuffix authority = colon :: after ∧ digitsValue after ≤ 65535 := by
  have hall : after.takeWhile isDigit = after :=
    List.takeWhile_eq_self_iff.mpr (List.all_eq_true.mp hafter.2)
  have hread := readPort_eq after (by norm_num : 0 < 2 ^ 31)
  rw [hall, if_pos hafter.2] at hread
  have happend := authorityHost_append_portSuffix authority
  obtain ⟨htext, -⟩ := cut_of_cutLast hcut
  rw [parseAuthority_port hcut hbefore hafter.1, hread]
  constructor
  · rintro ⟨result, hresult, hvalid, -⟩
    split at hresult
    next hfits =>
      obtain rfl := Option.some.inj hresult
      obtain ⟨hhost, hwritten⟩ := hvalid rfl
      have hsuffix : portSuffix authority = colon :: after := by
        rw [← hhost] at happend
        exact List.append_cancel_left (happend.trans htext)
      rw [hsuffix] at hwritten
      generalize hport : digitsFrom 0 after = port at hwritten
      cases hwritten with
      | digits hne hdigits hbound => exact ⟨hsuffix, hbound⟩
    next => cases hresult
  · rintro ⟨hsuffix, hbound⟩
    have hfits : digitsFrom 0 after < 2 ^ 31 := hbound.trans_lt (by norm_num)
    have hhost : before = authorityHost authority := by
      rw [hsuffix] at happend
      exact (List.append_cancel_right (happend.trans htext)).symm
    rw [if_pos hfits]
    refine ⟨_, rfl, fun _ => ⟨hhost, ?_⟩, fun _ _ => rfl⟩
    rw [hsuffix]
    exact .digits hafter.1 hafter.2 hbound

theorem readsAlike_no_port {authority before after : ByteText}
    (hcut : cutLast colon authority = some (before, after)) (hbefore : before ≠ [])
    (hafter : ¬(after ≠ [] ∧ after.all isDigit)) (hsuffix : portSuffix authority ≠ []) :
    ReadsAlike authority (parseAuthority authority) ↔
      digitsValue (after.takeWhile isDigit) < 2 ^ 31 := by
  have hrefused : ReadsAlike authority (some { host := before }) :=
    ⟨_, rfl, Bool.noConfusion, fun _ ⟨_, hwritten⟩ =>
      absurd (eq_of_portWritten hcut hwritten hsuffix) hafter⟩
  by_cases hempty : after = []
  · have hparsed : parseAuthority authority = some { host := before } := by
      rw [parseAuthority, hcut, hempty]
      exact if_pos (Bool.or_true _)
    rw [hparsed, hempty]
    exact iff_of_true hrefused (by decide)
  · have hread : readPort after 0 =
        if digitsValue (after.takeWhile isDigit) < 2 ^ 31 then some none else none := by
      have hread := readPort_eq after (by norm_num : 0 < 2 ^ 31)
      rwa [if_neg fun hdigits => hafter ⟨hempty, hdigits⟩] at hread
    rw [parseAuthority_port hcut hbefore hempty, hread]
    constructor
    · rintro ⟨result, hresult, -⟩
      by_contra hlong
      rw [if_neg hlong] at hresult
      cases hresult
    · intro hshort
      rw [if_pos hshort]
      exact hrefused

theorem readsAlike_iff_cutAlike (authority : ByteText) :
    ReadsAlike authority (parseAuthority authority) ↔ CutAlike authority := by
  rw [CutAlike]
  cases hcut : cutLast colon authority with
  | none => exact readsAlike_without_colon hcut
  | some cut =>
      obtain ⟨before, after⟩ := cut
      dsimp only
      by_cases hbefore : before = []
      · subst hbefore
        exact iff_of_true (readsAlike_without_host hcut) (.inl rfl)
      by_cases hsuffix : portSuffix authority = []
      · exact iff_of_false (not_readsAlike_of_bare hcut hsuffix) (by simp [hbefore, hsuffix])
      rw [or_iff_right hbefore, and_iff_right hsuffix]
      split
      next hafter => exact readsAlike_digits hcut hbefore hafter
      next hafter => exact readsAlike_no_port hcut hbefore hafter hsuffix

/-! ## Both readings of a URL -/

/-- What the server takes for the authority of a URL. -/
def servedAuthority (url : ByteText) : ByteText := (urlAuthority url).elim [] UrlView.text

theorem find_schemeMark_opcTcp (rest : ByteText) :
    find schemeMark (opcTcpPrefix ++ rest) = some 7 := by
  have hends : find schemeMark (asciiText "opc.tcp" ++ schemeMark ++ []) =
      some (asciiText "opc.tcp").length := by decide
  exact find_settled rest hends

theorem servedAuthority_opcTcp (rest : ByteText) :
    servedAuthority (opcTcpPrefix ++ rest) =
      (find [slash] rest).elim rest rest.take := by
  have hdrop : (opcTcpPrefix ++ rest).drop (7 + 3) = rest :=
    @List.drop_left _ opcTcpPrefix rest
  simp only [servedAuthority, urlAuthority, find_schemeMark_opcTcp, Option.map_some,
    Option.elim_some, findFrom, hdrop]
  cases find [slash] rest with
  | none => rfl
  | some path => simp

theorem parseOpcTcpUrl_opcTcp (rest : ByteText) :
    parseOpcTcpUrl (opcTcpPrefix ++ rest) =
      parseAuthority (servedAuthority (opcTcpPrefix ++ rest)) := by
  rw [servedAuthority_opcTcp]
  have htake : (opcTcpPrefix ++ rest).take opcTcpPrefix.length = opcTcpPrefix := List.take_left
  have hdrop : (opcTcpPrefix ++ rest).drop opcTcpPrefix.length = rest := List.drop_left
  by_cases hrest : rest = []
  · subst hrest
    decide
  · have hlength : ¬(opcTcpPrefix ++ rest).length ≤ opcTcpPrefix.length := by
      rw [List.length_append]
      have hpositive := List.length_pos_iff.mpr hrest
      omega
    rw [parseOpcTcpUrl, if_neg (by rw [htake]; exact not_or.mpr ⟨hlength, not_not.mpr rfl⟩)]
    simp only [findFrom, hdrop]
    cases find [slash] rest with
    | none => rfl
    | some path => simp

/-- Client and server read a URL alike if and only if the last colon is where the server
ends the host, the number behind it is a port, and no other number overflows. -/
theorem url_reads_alike_iff (rest : ByteText) :
    ReadsAlike (servedAuthority (opcTcpPrefix ++ rest))
        (parseOpcTcpUrl (opcTcpPrefix ++ rest)) ↔
      CutAlike (servedAuthority (opcTcpPrefix ++ rest)) := by
  rw [parseOpcTcpUrl_opcTcp]
  exact readsAlike_iff_cutAlike _

/-- A bracketed literal without a port is refused, a bare one loses its last group, a port
may be too large for any socket, and a longer one overflows. -/
theorem literals_and_ports_differ :
    ¬ReadsAlike (servedAuthority (asciiText "opc.tcp://[::1]"))
        (parseOpcTcpUrl (asciiText "opc.tcp://[::1]")) ∧
      ¬ReadsAlike (servedAuthority (asciiText "opc.tcp://::1"))
        (parseOpcTcpUrl (asciiText "opc.tcp://::1")) ∧
      ¬ReadsAlike (servedAuthority (asciiText "opc.tcp://host:70000"))
        (parseOpcTcpUrl (asciiText "opc.tcp://host:70000")) ∧
      ¬ReadsAlike (servedAuthority (asciiText "opc.tcp://host:2147483648"))
        (parseOpcTcpUrl (asciiText "opc.tcp://host:2147483648")) := by
  refine ⟨?_, ?_, ?_, ?_⟩
  · rintro ⟨result, hresult, -, haccepts⟩
    have hrefused : parseOpcTcpUrl (asciiText "opc.tcp://[::1]") =
        some { host := asciiText "[:" } := by decide
    obtain rfl := Option.some.inj (hrefused.symm.trans hresult)
    exact absurd (haccepts (by decide) ⟨4840, .absent⟩) Bool.false_ne_true
  · rintro ⟨result, hresult, hvalid, -⟩
    have hcut : parseOpcTcpUrl (asciiText "opc.tcp://::1") =
        some { host := asciiText ":", port := 1, valid := true } := by decide
    obtain rfl := Option.some.inj (hcut.symm.trans hresult)
    exact absurd (hvalid rfl).1 (by decide)
  · rintro ⟨result, hresult, hvalid, -⟩
    have hlarge : parseOpcTcpUrl (asciiText "opc.tcp://host:70000") =
        some { host := asciiText "host", port := 70000, valid := true } := by decide
    obtain rfl := Option.some.inj (hlarge.symm.trans hresult)
    exact absurd (hvalid rfl).2.le (by decide)
  · rintro ⟨result, hresult, -⟩
    have hlong : parseOpcTcpUrl (asciiText "opc.tcp://host:2147483648") = none := by
      decide
    cases hlong.symm.trans hresult

end OpcuaStack
