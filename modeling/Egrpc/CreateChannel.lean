import Egrpc.ChannelImpl

/-!
# Channel targets

`CreateChannel` turns a target string into the host and the port that the
channel connects to: a host or a bracketed IPv6 literal, then optionally a
colon and a port, with an optional `dns:///` in front.  `parseTarget` follows
the source with its positions and its 32-bit accumulator.

`TargetForm` is the grammar.  The parser accepts exactly the grammar, and it
reads back the `:authority` that the channel builds from a host and a port.
-/

namespace Egrpc

/-! ## The parser -/

/-- What is left of a target without its scheme; only `dns:///` is served. -/
def stripScheme (target : Bytes) : Option Bytes :=
  if target.take 7 = Bytes.ofString "dns:///" then some (target.drop 7)
  else if Bytes.ofString "://" <:+: target ∨
      target.take 5 = Bytes.ofString "unix:" then none
  else some target

/-- The host and the text of the port. -/
def splitHostPort (rest : Bytes) : Option (Bytes × Bytes) :=
  if rest.head? = some '['.toUInt8 then
    match Bytes.find rest ']'.toUInt8 with
    | none => none
    | some close =>
        let host := (rest.drop 1).take (close - 1)
        if close + 1 < rest.length then
          if rest[close + 1]? ≠ some ':'.toUInt8 then none
          else some (host, rest.drop (close + 2))
        else some (host, [])
  else
    match Bytes.rfind rest ':'.toUInt8 with
    | none => some (rest, [])
    | some colon =>
        if Bytes.find rest ':'.toUInt8 ≠ some colon then none
        else some (rest.take colon, rest.drop (colon + 1))

/-- The loop over the digits of a port, with its 32-bit accumulator. -/
def portLoop : Bytes → Nat → Option Nat
  | [], value => some value
  | digit :: digits, value =>
      if Bytes.isDigit digit = false then none
      else
        let value := (value * 10 + (digit.toNat - 48)) % 2 ^ 32
        if 65535 < value then none else portLoop digits value

/-- The port a text denotes; no text denotes 443. -/
def parsePort (portPart : Bytes) : Option Nat :=
  if portPart = [] then some 443
  else
    match portLoop portPart 0 with
    | none => none
    | some value => if value = 0 then none else some (value % 2 ^ 16)

def parseTarget (target : Bytes) : Option (Bytes × Nat) :=
  match stripScheme target with
  | none => none
  | some rest =>
      if rest = [] then none
      else
        match splitHostPort rest with
        | none => none
        | some (host, portPart) =>
            if host = [] then none
            else (parsePort portPart).map fun port => (host, port)

/-- What the loop over the digits computes before it is reduced to 32 bits. -/
def portSums : Bytes → Nat → List Nat
  | [], _ => []
  | digit :: digits, value =>
      if Bytes.isDigit digit = false then []
      else
        let sum := value * 10 + (digit.toNat - 48)
        if 65535 < sum % 2 ^ 32 then [sum]
        else sum :: portSums digits (sum % 2 ^ 32)

/-! ## The grammar -/

/-- An optional `dns:///`.  Without it the target must not name a scheme. -/
inductive SchemeForm : Bytes → Bytes → Prop
  | dns (rest : Bytes) : SchemeForm (Bytes.ofString "dns:///" ++ rest) rest
  | plain {rest : Bytes} (noScheme : ¬ Bytes.ofString "://" <:+: rest)
      (notUnix : ¬ Bytes.ofString "unix:" <+: rest) : SchemeForm rest rest

def inBrackets (host : Bytes) : Bytes :=
  '['.toUInt8 :: (host ++ [']'.toUInt8])

/-- A host as it is written: in brackets, or bare. -/
inductive HostForm : Bytes → Bytes → Prop
  | bracketed {host : Bytes} (nonempty : host ≠ []) (closed : ']'.toUInt8 ∉ host) :
      HostForm (inBrackets host) host
  | bare {host : Bytes} (nonempty : host ≠ []) (noColon : ':'.toUInt8 ∉ host)
      (noBracket : host.head? ≠ some '['.toUInt8) : HostForm host host

/-- What may follow the host, and the port it means. -/
inductive PortForm : Bytes → Nat → Prop
  | absent : PortForm [] 443
  | colon : PortForm [':'.toUInt8] 443
  | digits {digits : Bytes} (nonempty : digits ≠ [])
      (decimal : digits.all Bytes.isDigit = true)
      (positive : 1 ≤ Bytes.digitsValue digits)
      (inRange : Bytes.digitsValue digits ≤ 65535) :
      PortForm (':'.toUInt8 :: digits) (Bytes.digitsValue digits)

/-- A target, with the host and the port it names. -/
def TargetForm (target host : Bytes) (port : Nat) : Prop :=
  ∃ written suffix, SchemeForm target (written ++ suffix) ∧
    HostForm written host ∧ PortForm suffix port

/-! ## The scheme -/

theorem stripScheme_eq_some {target rest : Bytes} :
    stripScheme target = some rest ↔ SchemeForm target rest := by
  have dnsLength : (Bytes.ofString "dns:///").length = 7 := rfl
  have unixLength : (Bytes.ofString "unix:").length = 5 := rfl
  have dnsScheme : Bytes.ofString "://" <:+: Bytes.ofString "dns:///" := by decide
  unfold stripScheme
  constructor
  · intro stripped
    split_ifs at stripped with isDns refused
    · cases stripped
      have targetEq := List.take_append_drop 7 target
      rw [isDns] at targetEq
      rw [← targetEq]
      exact .dns _
    · cases stripped
      rw [not_or] at refused
      refine .plain refused.1 fun isUnix => refused.2 ?_
      have unixEq := List.prefix_iff_eq_take.mp isUnix
      rw [unixLength] at unixEq
      exact unixEq.symm
  · intro form
    cases form with
    | dns rest =>
        rw [if_pos (List.take_left' dnsLength), List.drop_left' dnsLength]
    | plain noScheme notUnix =>
        have notDns : ¬ target.take 7 = Bytes.ofString "dns:///" := by
          intro isDns
          apply noScheme
          rw [← List.take_append_drop 7 target, isDns]
          exact dnsScheme.trans (List.prefix_append _ _).isInfix
        have notUnixTake : ¬ target.take 5 = Bytes.ofString "unix:" := by
          intro isUnix
          apply notUnix
          rw [← isUnix]
          exact List.take_prefix 5 target
        rw [if_neg notDns, if_neg (not_or.mpr ⟨noScheme, notUnixTake⟩)]

/-! ## The host -/

theorem inBrackets_length (host : Bytes) :
    (inBrackets host).length = host.length + 2 := by
  simp [inBrackets]

theorem find_inBrackets {host : Bytes} (closed : ']'.toUInt8 ∉ host) (suffix : Bytes) :
    Bytes.find (inBrackets host ++ suffix) ']'.toUInt8 = some (host.length + 1) := by
  have absent : ']'.toUInt8 ∉ '['.toUInt8 :: host := by
    rw [List.mem_cons, not_or]
    exact ⟨by decide, closed⟩
  have found := Bytes.find_append absent suffix
  rwa [List.append_cons] at found

theorem splitHostPort_inBrackets {host : Bytes} (closed : ']'.toUInt8 ∉ host)
    (suffix : Bytes) :
    splitHostPort (inBrackets host ++ suffix) =
      if suffix = [] then some (host, [])
      else if suffix.head? ≠ some ':'.toUInt8 then none
      else some (host, suffix.tail) := by
  have opened : (inBrackets host ++ suffix).head? = some '['.toUInt8 := rfl
  have hostEq : ((inBrackets host ++ suffix).drop 1).take (host.length + 1 - 1) =
      host := by simp [inBrackets]
  have more : host.length + 1 + 1 < (inBrackets host ++ suffix).length ↔
      ¬ suffix = [] := by
    rw [List.length_append, inBrackets_length, ← ne_eq, ← List.length_pos_iff_ne_nil]
    omega
  have nextByte : (inBrackets host ++ suffix)[host.length + 1 + 1]? = suffix.head? := by
    rw [List.getElem?_append_right (inBrackets_length host).le, inBrackets_length,
      Nat.sub_self, List.head?_eq_getElem?]
  have afterColon : (inBrackets host ++ suffix).drop (host.length + 1 + 2) =
      suffix.tail := by
    have position : host.length + 1 + 2 = (inBrackets host).length + 1 := by
      rw [inBrackets_length]
    rw [position, List.drop_length_add_append, List.drop_one]
  unfold splitHostPort
  rw [if_pos opened, find_inBrackets closed]
  simp only [hostEq, more, nextByte, afterColon, ite_not]

theorem splitHostPort_bare {host : Bytes} (noColon : ':'.toUInt8 ∉ host)
    (noBracket : host.head? ≠ some '['.toUInt8) :
    splitHostPort host = some (host, []) := by
  unfold splitHostPort
  rw [if_neg noBracket, Bytes.rfind_of_not_mem noColon]

theorem splitHostPort_colon {host : Bytes} (noColon : ':'.toUInt8 ∉ host)
    (portPart : Bytes)
    (noBracket : (host ++ ':'.toUInt8 :: portPart).head? ≠ some '['.toUInt8) :
    splitHostPort (host ++ ':'.toUInt8 :: portPart) =
      if ':'.toUInt8 ∈ portPart then none else some (host, portPart) := by
  unfold splitHostPort
  rw [if_neg noBracket, Bytes.find_append noColon]
  split_ifs with again
  · obtain ⟨last, found, later⟩ := Bytes.exists_rfind_append host again
    rw [found]
    simp [later.ne]
  · rw [Bytes.rfind_append host again]
    simp

theorem exists_inBrackets {rest : Bytes} (opened : rest.head? = some '['.toUInt8)
    (closed : ']'.toUInt8 ∈ rest) :
    ∃ host suffix, ']'.toUInt8 ∉ host ∧ rest = inBrackets host ++ suffix := by
  obtain ⟨tail, rfl⟩ := List.head?_eq_some_iff.mp opened
  have inTail : ']'.toUInt8 ∈ tail := by
    rcases List.mem_cons.mp closed with isOpening | inTail
    · exact absurd isOpening (by decide)
    · exact inTail
  obtain ⟨host, suffix, rfl, absent⟩ := List.eq_append_cons_of_mem inTail
  exact ⟨host, suffix, absent, by simp [inBrackets]⟩

/-- A successful split finds a host as it may be written, followed by nothing or
by a colon and the port. -/
theorem hostForm_of_splitHostPort {rest host portPart : Bytes}
    (split : splitHostPort rest = some (host, portPart)) (nonempty : host ≠ []) :
    ∃ written, HostForm written host ∧
      (rest = written ∧ portPart = [] ∨
        rest = written ++ ':'.toUInt8 :: portPart) := by
  by_cases opened : rest.head? = some '['.toUInt8
  · by_cases closed : ']'.toUInt8 ∈ rest
    · obtain ⟨inside, suffix, absent, rfl⟩ := exists_inBrackets opened closed
      rw [splitHostPort_inBrackets absent] at split
      split_ifs at split with ended other
      · cases split
        exact ⟨_, .bracketed nonempty absent, .inl ⟨by rw [ended, List.append_nil], rfl⟩⟩
      · cases split
        obtain ⟨tail, rfl⟩ := List.head?_eq_some_iff.mp (not_not.mp other)
        exact ⟨_, .bracketed nonempty absent, .inr rfl⟩
    · rw [splitHostPort, if_pos opened, Bytes.find_of_not_mem closed] at split
      cases split
  · by_cases colon : ':'.toUInt8 ∈ rest
    · obtain ⟨before, after, rfl, absent⟩ := List.eq_append_cons_of_mem colon
      rw [splitHostPort_colon absent after opened] at split
      split_ifs at split
      cases split
      rw [List.head?_append_of_ne_nil _ nonempty] at opened
      exact ⟨_, .bare nonempty absent opened, .inr rfl⟩
    · rw [splitHostPort_bare colon opened] at split
      cases split
      exact ⟨_, .bare nonempty colon opened, .inl ⟨rfl, rfl⟩⟩

/-- A host as it may be written is split off, when the port has no colon. -/
theorem HostForm.splitHostPort_colon {written host : Bytes}
    (form : HostForm written host) {portPart : Bytes}
    (noColon : ':'.toUInt8 ∉ portPart) :
    splitHostPort (written ++ ':'.toUInt8 :: portPart) = some (host, portPart) := by
  cases form with
  | bracketed nonempty closed =>
      rw [splitHostPort_inBrackets closed]
      simp
  | bare nonempty absent noBracket =>
      rw [← List.head?_append_of_ne_nil _ nonempty] at noBracket
      rw [Egrpc.splitHostPort_colon absent portPart noBracket, if_neg noColon]

theorem HostForm.splitHostPort {written host : Bytes} (form : HostForm written host) :
    splitHostPort written = some (host, []) := by
  cases form with
  | bracketed nonempty closed =>
      have split := splitHostPort_inBrackets closed []
      rwa [List.append_nil] at split
  | bare nonempty absent noBracket => exact splitHostPort_bare absent noBracket

theorem HostForm.ne_nil {written host : Bytes} (form : HostForm written host) :
    written ≠ [] ∧ host ≠ [] := by
  cases form with
  | bracketed nonempty closed => exact ⟨List.cons_ne_nil _ _, nonempty⟩
  | bare nonempty absent noBracket => exact ⟨nonempty, nonempty⟩

/-! ## The port -/

/-- The loop computes the number the digits denote, unless that is too large. -/
theorem portLoop_eq_some {digits : Bytes} {value result : Nat}
    (small : value ≤ 65535) :
    portLoop digits value = some result ↔
      digits.all Bytes.isDigit = true ∧
        digits.foldl (fun value digit => value * 10 + (digit.toNat - 48)) value =
          result ∧
        result ≤ 65535 := by
  induction digits generalizing value with
  | nil =>
      simp only [portLoop, Option.some.injEq, List.all_nil, List.foldl_nil, true_and]
      constructor
      · rintro rfl
        exact ⟨rfl, small⟩
      · exact And.left
  | cons digit digits ih =>
      rw [portLoop, List.all_cons, List.foldl_cons]
      cases isDigit : Bytes.isDigit digit with
      | false => simp
      | true =>
          have digitLe := Bytes.toNat_sub_le_of_isDigit isDigit
          have noWrap : (value * 10 + (digit.toNat - 48)) % 2 ^ 32 =
              value * 10 + (digit.toNat - 48) := Nat.mod_eq_of_lt (by omega)
          simp only [Bool.true_eq_false, if_false, noWrap, Bool.true_and]
          split_ifs with large
          · -- The number only grows with more digits.
            have grows := Bytes.le_foldl_digits digits (value * 10 + (digit.toNat - 48))
            constructor
            · intro impossible
              cases impossible
            · rintro ⟨_, rfl, inRange⟩
              omega
          · exact ih (by omega)

theorem portSums_lt {digits : Bytes} {value : Nat} (small : value ≤ 65535) :
    ∀ sum ∈ portSums digits value, sum < 2 ^ 32 := by
  induction digits generalizing value with
  | nil => exact fun _ member => absurd member List.not_mem_nil
  | cons digit digits ih =>
      rw [portSums]
      cases isDigit : Bytes.isDigit digit with
      | false => simp
      | true =>
          have digitLe := Bytes.toNat_sub_le_of_isDigit isDigit
          have fits : value * 10 + (digit.toNat - 48) < 2 ^ 32 := by omega
          simp only [Bool.true_eq_false, if_false]
          split_ifs with large
          · intro sum member
            rw [List.mem_singleton.mp member]
            exact fits
          · intro sum member
            rcases List.mem_cons.mp member with rfl | later
            · exact fits
            · exact ih (not_lt.mp large) sum later

theorem parsePort_eq_some {portPart : Bytes} {port : Nat} :
    parsePort portPart = some port ↔ PortForm (':'.toUInt8 :: portPart) port := by
  unfold parsePort
  constructor
  · intro parsed
    split_ifs at parsed with absent
    · cases parsed
      rw [absent]
      exact .colon
    · split at parsed
      · cases parsed
      · rename_i value looped
        obtain ⟨decimal, valueEq, inRange⟩ := (portLoop_eq_some (by decide)).mp looped
        have denoted : Bytes.digitsValue portPart = value := valueEq
        split_ifs at parsed with isZero
        rw [Nat.mod_eq_of_lt (by omega), Option.some.injEq] at parsed
        rw [← parsed, ← denoted]
        exact .digits absent decimal (by omega) (by omega)
  · intro form
    cases form with
    | colon => rfl
    | digits nonempty decimal positive inRange =>
        have looped : portLoop portPart 0 = some (Bytes.digitsValue portPart) :=
          (portLoop_eq_some (by decide)).mpr ⟨decimal, rfl, inRange⟩
        rw [if_neg nonempty, looped]
        simp only
        rw [if_neg (by omega), Nat.mod_eq_of_lt (by omega)]

theorem PortForm.cases {suffix : Bytes} {port : Nat} (form : PortForm suffix port) :
    suffix = [] ∧ port = 443 ∨
      ∃ portPart, suffix = ':'.toUInt8 :: portPart ∧ ':'.toUInt8 ∉ portPart := by
  cases form with
  | absent => exact .inl ⟨rfl, rfl⟩
  | colon => exact .inr ⟨[], rfl, List.not_mem_nil⟩
  | digits nonempty decimal positive inRange =>
      refine .inr ⟨_, rfl, ?_⟩
      intro member
      have isDigit := List.all_eq_true.mp decimal _ member
      exact absurd isDigit (by decide)

/-! ## The target -/

/-- The parser accepts exactly the targets of the grammar, with their host and
port. -/
theorem parseTarget_eq_some {target host : Bytes} {port : Nat} :
    parseTarget target = some (host, port) ↔ TargetForm target host port := by
  unfold parseTarget
  constructor
  · intro parsed
    split at parsed
    · cases parsed
    · rename_i rest stripped
      rw [stripScheme_eq_some] at stripped
      split_ifs at parsed
      split at parsed
      · cases parsed
      · rename_i found portPart split
        split_ifs at parsed with noHost
        rw [Option.map_eq_some_iff] at parsed
        obtain ⟨number, ported, same⟩ := parsed
        cases same
        obtain ⟨written, hostForm, ⟨rfl, rfl⟩ | rfl⟩ :=
          hostForm_of_splitHostPort split noHost
        · cases ported
          exact ⟨rest, [], by rwa [List.append_nil], hostForm, .absent⟩
        · exact ⟨written, _, stripped, hostForm, parsePort_eq_some.mp ported⟩
  · rintro ⟨written, suffix, schemeForm, hostForm, portForm⟩
    obtain ⟨writtenNonempty, nonempty⟩ := hostForm.ne_nil
    have restNonempty : written ++ suffix ≠ [] :=
      List.append_ne_nil_of_left_ne_nil writtenNonempty suffix
    rw [stripScheme_eq_some.mpr schemeForm]
    simp only [restNonempty, if_false]
    rcases portForm.cases with ⟨rfl, rfl⟩ | ⟨portPart, rfl, noColon⟩
    · rw [List.append_nil, hostForm.splitHostPort]
      simp only [nonempty, if_false]
      rfl
    · rw [hostForm.splitHostPort_colon noColon]
      simp only [nonempty, if_false]
      rw [parsePort_eq_some.mpr portForm]
      rfl

/-! ## The authority of a channel -/

theorem portForm_decimal {port : Nat} (positive : 1 ≤ port) (inRange : port ≤ 65535) :
    PortForm (':'.toUInt8 :: Bytes.decimal port) port := by
  have value := Bytes.digitsValue_decimal port
  have nonempty : Bytes.decimal port ≠ [] :=
    List.ne_nil_of_length_pos (Bytes.decimal_length_pos port)
  have form := PortForm.digits nonempty (Bytes.decimal_all_isDigit port)
  rw [value] at form
  exact form positive inRange

/-- The `:authority` is the host as it may be written, a colon and the port. -/
theorem exists_hostForm_authority {config : ChannelConfig}
    (nonempty : config.host ≠ []) (noOpening : '['.toUInt8 ∉ config.host)
    (noClosing : ']'.toUInt8 ∉ config.host) :
    ∃ written, HostForm written config.host ∧
      config.authority = written ++ ':'.toUInt8 :: Bytes.decimal config.port := by
  unfold ChannelConfig.authority
  split_ifs with colon
  · refine ⟨inBrackets config.host, .bracketed nonempty noClosing, ?_⟩
    rw [List.append_assoc]
    rfl
  · have noBracket : config.host.head? ≠ some '['.toUInt8 := fun opened =>
      noOpening (List.mem_of_head? opened)
    refine ⟨config.host, .bare nonempty colon noBracket, ?_⟩
    rw [List.append_assoc]
    rfl

/-- For every non-empty host without brackets and every port, the `:authority` of the
channel behind `dns:///` parses to that host and port. A target parses exactly when it
has the form of the grammar, and then to the host and the port of that form. The 32-bit
accumulator never wraps around, however many digits there are. -/
theorem parseTarget_inverts_authority_and_accepts_grammar :
    (∀ config : ChannelConfig, config.host ≠ [] →
      '['.toUInt8 ∉ config.host → ']'.toUInt8 ∉ config.host →
      1 ≤ config.port → config.port ≤ 65535 →
      parseTarget (Bytes.ofString "dns:///" ++ config.authority) =
        some (config.host, config.port)) ∧
    (∀ target host port,
      parseTarget target = some (host, port) ↔ TargetForm target host port) ∧
    (∀ digits, ∀ sum ∈ portSums digits 0, sum < 2 ^ 32) := by
  refine ⟨?_, fun _ _ _ => parseTarget_eq_some, fun _ => portSums_lt (by decide)⟩
  intro config nonempty noOpening noClosing positive inRange
  obtain ⟨written, hostForm, authorityEq⟩ :=
    exists_hostForm_authority nonempty noOpening noClosing
  rw [authorityEq]
  apply parseTarget_eq_some.mpr
  exact ⟨written, _, .dns _, hostForm, portForm_decimal positive inRange⟩

/-- A bracketed literal with a padded port, and a bare host with a colon only. -/
example : parseTarget (Bytes.ofString "[::1]:00080") = some (Bytes.ofString "::1", 80) ∧
    parseTarget (Bytes.ofString "dns:///host:") = some (Bytes.ofString "host", 443) ∧
    parseTarget (Bytes.ofString "::1:80") = none ∧
    parseTarget (Bytes.ofString "host:4294967376") = none := by
  decide

end Egrpc
