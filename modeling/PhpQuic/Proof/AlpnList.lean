/-
**The ALPN encoder: what it accepts, and what its bytes stand for.**

A string specification stands for its pieces between commas, trimmed, the empty ones left out; an
array stands for its entries as strings. The environment is only asked to convert the entries, and
`converting` lets it answer anything: its state is the list of answers still to come. The scanner
counts the pieces in an `int`, and takes a count that has come round to zero for no piece at all.

* `alpnTrim_spec`: trimming takes spaces and tabs off both ends, and leaves none there.
* `alpnScan_encodes`, `alpnScan_count`: the scanner encodes the pieces, and counts them.
* `alpnEntries_encodes`: the loop over an array encodes the converted entries.
* `alpn_grammar_iff`: which specifications are accepted, and that decoding the output gives back the
  protocols; a list has one encoding, joined by commas or as an array, unless the count goes round.
* `alpn_negotiation`: the server's callback, on the bytes of a client, selects by the two lists.
-/

import PhpQuic.Openssl.Environment
import PhpQuic.Source.Listener
import PhpQuic.Wire.LengthPrefixed

namespace PhpQuic

open Interact

/-! ### The protocols of a specification -/

/-- The blanks are the space and the tab. -/
theorem isBlank_iff (char : UInt8) : isBlank char = true ↔ char = 32 ∨ char = 9 :=
  decide_eq_true_iff

theorem isBlank_eq_false_iff (char : UInt8) : isBlank char = false ↔ char ≠ 32 ∧ char ≠ 9 := by
  rw [← Bool.not_eq_true, isBlank_iff, not_or]

/-- A text with neither a space nor a tab at its ends. -/
def IsTrimmed (s : Bytes) : Prop :=
  (∀ char ∈ s.head?, char ≠ 32 ∧ char ≠ 9) ∧ ∀ char ∈ s.getLast?, char ≠ 32 ∧ char ≠ 9

-- By looking at the two bytes, not at all 256.
instance (s : Bytes) : Decidable (IsTrimmed s) :=
  @instDecidableAnd _ _ (Option.decidableForallMem _) (Option.decidableForallMem _)

/-- **Trimming takes spaces and tabs off both ends, and leaves none there.** -/
theorem alpnTrim_spec (piece : Bytes) : IsTrimmed (alpnTrim piece) ∧
    ∃ before after, piece = before ++ alpnTrim piece ++ after ∧
      ∀ char ∈ before ++ after, char = 32 ∨ char = 9 := by
  refine ⟨⟨fun char first => (isBlank_eq_false_iff char).mp ?_,
    fun char last => (isBlank_eq_false_iff char).mp ?_⟩, ?_⟩
  · obtain ⟨more, whole⟩ : alpnTrim piece <+: piece.dropWhile isBlank := List.rdropWhile_prefix _ _
    have head : (piece.dropWhile isBlank).head? = some char := by
      rw [← whole, List.head?_append, Option.mem_def.mp first]
      rfl
    have kept := List.head?_dropWhile_not isBlank piece
    rw [head] at kept
    simpa using kept
  · have nonempty : alpnTrim piece ≠ [] := by
      intro empty
      rw [empty] at last
      cases last
    have kept := List.rdropWhile_last_not isBlank (piece.dropWhile isBlank) nonempty
    rw [List.getLast?_eq_some_getLast nonempty, Option.mem_some] at last
    rw [← last]
    exact Bool.eq_false_iff.mpr kept
  · refine ⟨piece.takeWhile isBlank, (piece.dropWhile isBlank).rtakeWhile isBlank, ?_, ?_⟩
    · rw [List.append_assoc, alpnTrim, List.rdropWhile_append_rtakeWhile,
        List.takeWhile_append_dropWhile]
    · intro char member
      refine (isBlank_iff char).mp ?_
      rcases List.mem_append.mp member with first | last
      · exact List.mem_takeWhile_imp first
      · exact List.mem_rtakeWhile_imp last

/-- A trimmed text stays as it is. -/
theorem alpnTrim_of_trimmed {s : Bytes} (trimmed : IsTrimmed s) : alpnTrim s = s := by
  obtain ⟨first, last⟩ := trimmed
  have front : s.dropWhile isBlank = s := by
    cases s with
    | nil => rfl
    | cons char rest =>
        have kept := (isBlank_eq_false_iff char).mpr (first char rfl)
        rw [List.dropWhile_cons, if_neg (Bool.eq_false_iff.mp kept)]
  rw [alpnTrim, front]
  refine List.rdropWhile_eq_self_iff.mpr fun nonempty => ?_
  have kept := (isBlank_eq_false_iff _).mpr (last _ (List.getLast?_eq_some_getLast nonempty))
  exact Bool.eq_false_iff.mp kept

/-- The pieces of the string form. -/
def alpnPieces (s : Bytes) : List Bytes := ((s.splitOn 44).map alpnTrim).filter (· ≠ [])

/-- The protocols a specification stands for, given what the entries of an array convert to. -/
def alpnProtocols (spec : Zval) (converted : List Bytes) : List Bytes :=
  match spec with
  | .string s => alpnPieces s
  | .array _ => converted
  | _ => []

/-- A protocol has at least one byte, and its length fits the length byte. -/
def IsProtocol (proto : Bytes) : Prop := 1 ≤ proto.length ∧ proto.length ≤ 255

instance (proto : Bytes) : Decidable (IsProtocol proto) := inferInstanceAs (Decidable (_ ∧ _))

theorem alpnPieces_positive {s piece : Bytes} (member : piece ∈ alpnPieces s) :
    1 ≤ piece.length := by
  have nonempty : piece ≠ [] := by simpa using (List.mem_filter.mp member).2
  exact List.length_pos_iff.mpr nonempty

/-! ### The string form -/

/-- The wire form of `protocols` behind `buf`, or a refusal because one of them is no protocol. -/
inductive Encodes (buf : Bytes) (protocols : List Bytes) : ZendResult Bytes → Prop
  | encoded (valid : ∀ proto ∈ protocols, IsProtocol proto) :
      Encodes buf protocols (.ok (buf ++ Wire.encode protocols))
  | refused (message : Bytes) (invalid : ∃ proto ∈ protocols, ¬ IsProtocol proto) :
      Encodes buf protocols (.error message)

theorem Encodes.nil (buf : Bytes) : Encodes buf [] (.ok buf) := by
  have encoded : Encodes buf [] (.ok (buf ++ Wire.encode [])) := .encoded nofun
  rwa [Wire.encode, List.flatMap_nil, List.append_nil] at encoded

/-- What appending one protocol does. -/
theorem phpQuicAlpnAppend_cases (buf proto : Bytes) :
    (IsProtocol proto ∧ phpQuicAlpnAppend buf proto = .ok (buf ++ Wire.lengthPrefixed proto)) ∨
      ¬ IsProtocol proto ∧ ∃ message, phpQuicAlpnAppend buf proto = .error message := by
  unfold phpQuicAlpnAppend IsProtocol
  by_cases unfit : proto.length = 0 ∨ 255 < proto.length
  · rw [if_pos unfit]
    exact .inr ⟨by omega, _, rfl⟩
  · rw [if_neg unfit]
    exact .inl ⟨by omega, rfl⟩

theorem Encodes.of_invalid {buf proto : Bytes} (invalid : ¬ IsProtocol proto)
    (protocols : List Bytes) (message : Bytes) :
    Encodes buf (proto :: protocols) (.error message) :=
  .refused message ⟨proto, List.mem_cons_self, invalid⟩

/-- The others, behind one protocol. -/
theorem Encodes.of_valid {buf proto : Bytes} (valid : IsProtocol proto) {protocols : List Bytes}
    {result : ZendResult Bytes}
    (others : Encodes (buf ++ Wire.lengthPrefixed proto) protocols result) :
    Encodes buf (proto :: protocols) result := by
  cases others with
  | encoded more =>
      rw [List.append_assoc, ← Wire.encode_cons]
      exact .encoded (List.forall_mem_cons.mpr ⟨valid, more⟩)
  | refused message invalid =>
      obtain ⟨other, member, wrong⟩ := invalid
      exact .refused message ⟨other, List.mem_cons_of_mem proto member, wrong⟩

/-- What the scan does with a piece that is complete, in front of a scan of the rest. -/
theorem alpnPiece_encodes (piece : Bytes) (state : Bytes × Int) {protocols : List Bytes}
    {rest : Bytes × Int → ZendResult (Bytes × Int)}
    (others : ∀ state, Encodes state.1 protocols ((rest state).map Prod.fst)) :
    Encodes state.1 ([alpnTrim piece].filter (· ≠ []) ++ protocols)
      ((alpnPiece piece state >>= rest).map Prod.fst) := by
  unfold alpnPiece
  by_cases empty : alpnTrim piece = []
  · have none_left : [alpnTrim piece].filter (· ≠ []) = [] := by
      rw [empty]
      rfl
    rw [if_pos empty, none_left]
    exact others state
  · have one_left : [alpnTrim piece].filter (· ≠ []) = [alpnTrim piece] := by
      simpa using empty
    rw [if_neg empty, one_left]
    rcases phpQuicAlpnAppend_cases state.1 (alpnTrim piece) with
      ⟨valid, appended⟩ | ⟨invalid, message, refused⟩
    · rw [appended]
      exact .of_valid valid (others (_, toInt32 (state.2 + 1)))
    · rw [refused]
      exact .of_invalid invalid protocols message

/-- The pieces up to a comma, or to the end. -/
theorem alpnPieces_append_cons {piece : Bytes} (plain : (44 : UInt8) ∉ piece) (rest : Bytes) :
    alpnPieces (piece ++ 44 :: rest) = [alpnTrim piece].filter (· ≠ []) ++ alpnPieces rest := by
  unfold alpnPieces
  rw [List.splitOn_append_cons_self_of_not_mem plain, List.map_cons, List.filter_cons]
  by_cases empty : alpnTrim piece = []
  · simp [empty]
  · simp [empty]

theorem alpnPieces_of_plain {piece : Bytes} (plain : (44 : UInt8) ∉ piece) :
    alpnPieces piece = [alpnTrim piece].filter (· ≠ []) := by
  unfold alpnPieces
  rw [List.splitOn_eq_singleton plain]
  rfl

theorem not_comma_of_append {piece : Bytes} (plain : (44 : UInt8) ∉ piece) {char : UInt8}
    (other : char ≠ 44) : (44 : UInt8) ∉ piece ++ [char] := by
  rw [List.mem_append, List.mem_singleton]
  rintro (member | same)
  · exact plain member
  · exact other same.symm

/-- **The scan encodes the pieces of what it scans.** -/
theorem alpnScan_encodes {piece : Bytes} (plain : (44 : UInt8) ∉ piece) (rest : Bytes)
    (state : Bytes × Int) :
    Encodes state.1 (alpnPieces (piece ++ rest)) ((alpnScan piece rest state).map Prod.fst) := by
  induction rest generalizing piece state with
  | nil =>
      have last : Encodes state.1 ([alpnTrim piece].filter (· ≠ []) ++ [])
          ((alpnPiece piece state >>= pure).map Prod.fst) :=
        alpnPiece_encodes piece state fun state => .nil state.1
      rw [List.append_nil, bind_pure, ← alpnPieces_of_plain plain] at last
      rw [List.append_nil]
      exact last
  | cons char rest ih =>
      unfold alpnScan
      split
      · next comma =>
          rw [comma, alpnPieces_append_cons plain]
          exact alpnPiece_encodes piece state fun state => ih List.not_mem_nil state
      · next other =>
          have more := ih (not_comma_of_append plain other) state
          rwa [List.append_assoc] at more

theorem alpnPiece_count {piece : Bytes} {state out : Bytes × Int} {seen : Nat}
    (counted : state.2 = toInt32 seen) (ended : alpnPiece piece state = .ok out) :
    out.2 = toInt32 (seen + ([alpnTrim piece].filter (· ≠ [])).length : Nat) := by
  unfold alpnPiece at ended
  by_cases empty : alpnTrim piece = []
  · rw [if_pos empty] at ended
    obtain rfl := Except.ok.inj ended
    rw [empty]
    exact counted
  · rw [if_neg empty] at ended
    have one_left : [alpnTrim piece].filter (· ≠ []) = [alpnTrim piece] := by
      simpa using empty
    rw [one_left]
    cases appended : phpQuicAlpnAppend state.1 (alpnTrim piece) with
    | error message =>
        rw [appended] at ended
        cases ended
    | ok buf =>
        rw [appended] at ended
        obtain rfl := Except.ok.inj ended
        show toInt32 (state.2 + 1) = toInt32 ((seen + 1 : Nat) : Int)
        rw [counted, toInt32_add, Int.natCast_add]
        rfl

/-- **The scan counts the pieces**, as far as an `int` can. -/
theorem alpnScan_count {piece : Bytes} (plain : (44 : UInt8) ∉ piece) {rest : Bytes}
    {state out : Bytes × Int} {seen : Nat} (counted : state.2 = toInt32 seen)
    (scanned : alpnScan piece rest state = .ok out) :
    out.2 = toInt32 (seen + (alpnPieces (piece ++ rest)).length : Nat) := by
  induction rest generalizing piece state seen with
  | nil =>
      rw [List.append_nil, alpnPieces_of_plain plain]
      exact alpnPiece_count counted scanned
  | cons char rest ih =>
      unfold alpnScan at scanned
      split at scanned
      · next comma =>
          cases ended : alpnPiece piece state with
          | error message =>
              rw [ended] at scanned
              cases scanned
          | ok middle =>
              rw [ended] at scanned
              have here := alpnPiece_count counted ended
              rw [comma, alpnPieces_append_cons plain, List.length_append, ← Nat.add_assoc]
              exact ih List.not_mem_nil here scanned
      · next other =>
          have later := ih (not_comma_of_append plain other) counted scanned
          rwa [List.append_assoc] at later

/-! ### The two forms -/

/-- The conversions of the entries: their results, in order. Every other call is free. -/
def converting (s : List Bytes) : (call : Call) → Answer call → List Bytes → Prop
  | .zvalGetString _, answer, s' => answer = s.headD [] ∧ s' = s.tail
  | _, _, s' => s' = s

/-- **The loop over an array encodes what the entries convert to.** -/
theorem alpnEntries_encodes (entries : List (ArrayKey × Zval)) (buf : Bytes)
    {converted more : List Bytes} (whole : converted.length = entries.length) :
    Always converting (alpnEntries entries buf) (fun result _ => Encodes buf converted result)
      (converted ++ more) := by
  induction entries generalizing buf converted with
  | nil =>
      obtain rfl := List.eq_nil_of_length_eq_zero whole
      exact .pure (.nil buf)
  | cons entry rest ih =>
      cases converted with
      | nil => cases whole
      | cons proto converted =>
          refine always_call_bind.mpr fun answer s₁ replied => ?_
          obtain ⟨same, rfl⟩ := replied
          obtain rfl : proto = answer := same.symm
          rcases phpQuicAlpnAppend_cases buf proto with
            ⟨valid, appended⟩ | ⟨invalid, message, refused⟩
          · simp only [appended]
            exact (ih _ (Nat.succ.inj whole)).mono fun _ _ => .of_valid valid
          · simp only [refused]
            exact .pure (.of_invalid invalid converted message)

/-- There is one conversion for each entry of an array. -/
def Converts (spec : Zval) (converted : List Bytes) : Prop :=
  match spec with
  | .array elements => converted.length = elements.length
  | _ => True

/-- The `int` that counts the pieces of a string has not come round to zero. -/
def CountFits : Zval → Prop
  | .string s => (alpnPieces s).length % 2 ^ 32 ≠ 0
  | _ => True

/-- **A specification that is accepted** stands for at least one protocol, and for nothing else. -/
structure Acceptable (spec : Zval) (converted : List Bytes) : Prop where
  nonempty : alpnProtocols spec converted ≠ []
  valid : ∀ proto ∈ alpnProtocols spec converted, IsProtocol proto
  counted : CountFits spec

/-- What the encoder makes of a specification. -/
inductive AlpnResult (spec : Zval) (converted : List Bytes) : ZendResult Bytes → Prop
  | encoded (accepted : Acceptable spec converted) :
      AlpnResult spec converted (.ok (Wire.encode (alpnProtocols spec converted)))
  | refused (message : Bytes) (unacceptable : ¬ Acceptable spec converted) :
      AlpnResult spec converted (.error message)

theorem AlpnResult.of_encodes {spec : Zval} {converted : List Bytes} {result : ZendResult Bytes}
    (nonempty : alpnProtocols spec converted ≠ []) (counted : CountFits spec)
    (encodes : Encodes [] (alpnProtocols spec converted) result) :
    AlpnResult spec converted result := by
  cases encodes with
  | encoded valid => exact .encoded ⟨nonempty, valid, counted⟩
  | refused message invalid =>
      obtain ⟨proto, member, wrong⟩ := invalid
      exact .refused message fun accepted => wrong (accepted.valid proto member)

theorem AlpnResult.of_empty (spec : Zval) (converted : List Bytes)
    (empty : alpnProtocols spec converted = []) (message : Bytes) :
    AlpnResult spec converted (.error message) :=
  .refused message fun accepted => accepted.nonempty empty

/-- The scan of a whole string. -/
theorem alpnScan_whole (s : Bytes) : Encodes [] (alpnPieces s)
      ((alpnScan [] s ([], 0)).map Prod.fst) ∧
    ∀ out, alpnScan [] s ([], 0) = .ok out → out.2 = toInt32 (alpnPieces s).length := by
  refine ⟨alpnScan_encodes List.not_mem_nil s ([], 0), fun out scanned => ?_⟩
  have counted : out.2 = toInt32 (0 + (alpnPieces s).length : Nat) :=
    alpnScan_count List.not_mem_nil (show (0 : Int) = toInt32 (0 : Nat) by decide) scanned
  rw [counted, Nat.zero_add]

/-- The end of the string form: the count decides. -/
theorem alpnEncode_string (s : Bytes) (converted : List Bytes) (more : List Bytes) :
    Always converting (alpnEncode (.string s))
      (fun result _ => AlpnResult (.string s) converted result) more := by
  obtain ⟨scanned, counts⟩ := alpnScan_whole s
  refine .pure ?_
  cases ended : alpnScan [] s ([], 0) with
  | error message =>
      rw [ended] at scanned
      cases scanned with
      | refused _ invalid =>
          obtain ⟨proto, member, wrong⟩ := invalid
          exact .refused message fun accepted => wrong (accepted.valid proto member)
  | ok out =>
      have fits : out.2 = 0 ↔ (alpnPieces s).length % 2 ^ 32 = 0 := by
        rw [counts out ended, toInt32_eq_zero_iff]
      rw [ended] at scanned
      dsimp only
      by_cases zero : out.2 = 0
      · rw [if_pos zero]
        exact .refused _ fun accepted => accepted.counted (fits.mp zero)
      · rw [if_neg zero]
        refine .of_encodes (fun empty => zero (fits.mpr ?_)) (mt fits.mpr zero) scanned
        rw [show alpnPieces s = [] from empty]
        rfl

/-- **Where the count comes round, a string of protocols passes for an empty one.** -/
theorem alpnEncode_overflow {s : Bytes} (valid : ∀ piece ∈ alpnPieces s, IsProtocol piece)
    (round : (alpnPieces s).length % 2 ^ 32 = 0) :
    alpnEncode (.string s) =
      return .error (snprintf errlen (text "ALPN string is empty")) := by
  obtain ⟨scanned, counts⟩ := alpnScan_whole s
  cases ended : alpnScan [] s ([], 0) with
  | error message =>
      rw [ended] at scanned
      cases scanned with
      | refused _ invalid =>
          obtain ⟨proto, member, wrong⟩ := invalid
          exact absurd (valid proto member) wrong
  | ok out =>
      have zero : out.2 = 0 := (counts out ended).trans ((toInt32_eq_zero_iff _).mpr round)
      simp only [alpnEncode, ended, if_pos zero]

theorem alpnEncode_result {spec : Zval} {converted : List Bytes} (whole : Converts spec converted)
    (more : List Bytes) :
    Always converting (alpnEncode spec) (fun result _ => AlpnResult spec converted result)
      (converted ++ more) := by
  cases spec with
  | string s => exact alpnEncode_string s converted _
  | array elements =>
      cases elements with
      | nil =>
          obtain rfl : converted = [] := List.eq_nil_of_length_eq_zero whole
          exact .pure (.of_empty (.array []) [] rfl _)
      | cons entry rest =>
          refine (alpnEntries_encodes (entry :: rest) [] whole).mono fun result _ encodes => ?_
          refine .of_encodes (fun empty => ?_) trivial encodes
          rw [show converted = [] from empty] at whole
          cases whole
  | _ => exact .pure (.of_empty _ converted rfl _)

/-- **`php_quic_alpn_from_zval` encodes the protocols of an acceptable specification, and refuses
every other.** -/
theorem phpQuicAlpnFromZval_result (spec : Zval) (converted : List Bytes)
    (whole : Converts spec converted) (more : List Bytes) :
    Always converting (phpQuicAlpnFromZval spec)
      (fun result _ => AlpnResult spec converted (result.map ZendString.bytes))
      (converted ++ more) := by
  refine .bind (alpnEncode_result whole more) fun encoded s₁ result => ?_
  cases encoded with
  | error message => exact .pure result
  | ok bytes => exact always_call_bind.mpr fun id _ _ => .pure result

theorem AlpnResult.ok_iff {spec : Zval} {converted : List Bytes} {result : ZendResult ZendString}
    (made : AlpnResult spec converted (result.map ZendString.bytes)) :
    ((∃ out, result = .ok out) ↔ Acceptable spec converted) ∧
      ∀ out, result = .ok out → out.bytes = Wire.encode (alpnProtocols spec converted) := by
  cases result with
  | error message =>
      cases made with
      | refused _ unacceptable => exact ⟨⟨nofun, fun accepted => absurd accepted unacceptable⟩, nofun⟩
  | ok out =>
      obtain ⟨id, bytes⟩ := out
      cases made with
      | encoded accepted =>
          refine ⟨⟨fun _ => accepted, fun _ => ⟨_, rfl⟩⟩, fun out same => ?_⟩
          obtain rfl := Except.ok.inj same
          rfl

/-- The protocols of an accepted specification can be read back from its encoding. -/
theorem Acceptable.decode {spec : Zval} {converted : List Bytes}
    (accepted : Acceptable spec converted) :
    Wire.decode (Wire.encode (alpnProtocols spec converted)) =
      some (alpnProtocols spec converted) :=
  Wire.decode_encode fun proto member => (accepted.valid proto member).2

/-- **What a run makes of its specification**: it succeeds exactly on an acceptable one, and then its
protocols can be read back. -/
theorem alpn_decodes {spec : Zval} {converted more start final : List Bytes}
    {result : ZendResult ZendString} (whole : Converts spec converted)
    (initial : start = converted ++ more)
    (ran : Run converting (phpQuicAlpnFromZval spec) start result final) :
    ((∃ out, result = .ok out) ↔ Acceptable spec converted) ∧
      ∀ out, result = .ok out → Wire.decode out.bytes = some (alpnProtocols spec converted) := by
  subst initial
  obtain ⟨accepts, encodes⟩ :=
    (phpQuicAlpnFromZval_result spec converted whole more result final ran).ok_iff
  refine ⟨accepts, fun out same => ?_⟩
  rw [encodes out same]
  exact (accepts.mp ⟨out, same⟩).decode

/-! ### The grammar -/

/-- Protocols that survive being joined by commas. -/
theorem alpnPieces_intercalate {protocols : List Bytes} (nonempty : protocols ≠ [])
    (plain : ∀ proto ∈ protocols, IsProtocol proto ∧ (44 : UInt8) ∉ proto ∧ IsTrimmed proto) :
    alpnPieces ([(44 : UInt8)].intercalate protocols) = protocols := by
  unfold alpnPieces
  rw [List.splitOn_intercalate 44 (fun proto member => (plain proto member).2.1) nonempty]
  have trimmed : protocols.map alpnTrim = protocols.map id :=
    List.map_congr_left fun proto member => alpnTrim_of_trimmed (plain proto member).2.2
  rw [trimmed, List.map_id]
  refine List.filter_eq_self.mpr fun proto member => ?_
  have positive := (plain proto member).1.1
  exact decide_eq_true (List.length_pos_iff.mp positive)

/-- What is accepted of strings: the count excludes the one without pieces, too. -/
theorem acceptable_string_iff (s : Bytes) (converted : List Bytes) :
    Acceptable (.string s) converted ↔
      (alpnPieces s).length % 2 ^ 32 ≠ 0 ∧ ∀ piece ∈ alpnPieces s, piece.length ≤ 255 := by
  constructor
  · intro accepted
    exact ⟨accepted.counted, fun piece member => (accepted.valid piece member).2⟩
  · rintro ⟨counted, short⟩
    refine ⟨fun empty => counted ?_, fun piece member => ?_, counted⟩
    · rw [show alpnPieces s = [] from empty]
      rfl
    · exact ⟨alpnPieces_positive member, short piece member⟩

theorem acceptable_array_iff {elements : HashTable} {converted : List Bytes}
    (whole : converted.length = elements.length) :
    Acceptable (.array elements) converted ↔
      elements ≠ [] ∧ ∀ entry ∈ converted, IsProtocol entry := by
  have empty : converted ≠ [] ↔ elements ≠ [] := by
    rw [← List.length_pos_iff, ← List.length_pos_iff, whole]
  exact ⟨fun accepted => ⟨empty.mp accepted.nonempty, accepted.valid⟩,
    fun both => ⟨empty.mpr both.1, both.2, trivial⟩⟩

/-- **The string form and the array form of the same protocols have one encoding**, unless the count
of the string form comes round to zero. -/
theorem alpnForms_agree_iff {protocols : List Bytes} {elements : HashTable}
    {start final final' : List Bytes} {joined listed : ZendResult ZendString}
    (nonempty : protocols ≠ [])
    (plain : ∀ proto ∈ protocols, IsProtocol proto ∧ (44 : UInt8) ∉ proto ∧ IsTrimmed proto)
    (values : elements.map Prod.snd = protocols.map Zval.string)
    (first : Run converting (phpQuicAlpnFromZval (.string ([44].intercalate protocols))) start joined
      final)
    (second : Run converting (phpQuicAlpnFromZval (.array elements)) protocols listed final') :
    (∃ out out', joined = .ok out ∧ listed = .ok out' ∧ out.bytes = out'.bytes) ↔
      protocols.length % 2 ^ 32 ≠ 0 := by
  have pieces := alpnPieces_intercalate nonempty plain
  have whole : protocols.length = elements.length := by
    have lengths := congrArg List.length values
    rw [List.length_map, List.length_map] at lengths
    exact lengths.symm
  have valid : ∀ proto ∈ protocols, IsProtocol proto := fun proto member => (plain proto member).1
  obtain ⟨accepts, encodes⟩ :=
    (phpQuicAlpnFromZval_result (.string ([44].intercalate protocols)) [] trivial start joined
      final first).ok_iff
  rw [← List.append_nil protocols] at second
  obtain ⟨accepts', encodes'⟩ :=
    (phpQuicAlpnFromZval_result (.array elements) protocols whole [] listed final' second).ok_iff
  constructor
  · rintro ⟨out, _, made, -, -⟩
    have counted := ((acceptable_string_iff _ _).mp (accepts.mp ⟨out, made⟩)).1
    rwa [pieces] at counted
  · intro counted
    have joinable : Acceptable (.string ([44].intercalate protocols)) [] := by
      rw [acceptable_string_iff, pieces]
      exact ⟨counted, fun proto member => (valid proto member).2⟩
    obtain ⟨out, made⟩ := accepts.mpr joinable
    obtain ⟨out', made'⟩ := accepts'.mpr ⟨nonempty, valid, trivial⟩
    refine ⟨out, out', made, made', ?_⟩
    rw [encodes out made, encodes' out' made']
    exact congrArg Wire.encode pieces

/-- What is said of the encoder on a string: it splits at commas, and succeeds exactly if a piece is
left and none is longer than 255 bytes. -/
def StringGrammar (s : Bytes) (result : ZendResult ZendString) : Prop :=
  ((∃ out, result = .ok out) ↔ alpnPieces s ≠ [] ∧ ∀ piece ∈ alpnPieces s, piece.length ≤ 255) ∧
    ∀ out, result = .ok out → Wire.decode out.bytes = some (alpnPieces s)

/-- **A string is encoded by its grammar exactly if** the number of its pieces is no positive
multiple of 2^32, or a piece is too long anyway. -/
theorem stringGrammar_iff {s : Bytes} {start final : List Bytes} {result : ZendResult ZendString}
    (ran : Run converting (phpQuicAlpnFromZval (.string s)) start result final) :
    StringGrammar s result ↔ ((alpnPieces s).length % 2 ^ 32 = 0 →
      alpnPieces s = [] ∨ ∃ piece ∈ alpnPieces s, 255 < piece.length) := by
  have whole : Converts (.string s) [] := trivial
  obtain ⟨accepts, decodes⟩ := alpn_decodes whole (List.nil_append start).symm ran
  have law : StringGrammar s result ↔
      ((alpnPieces s).length % 2 ^ 32 ≠ 0 ∧ (∀ piece ∈ alpnPieces s, piece.length ≤ 255) ↔
        alpnPieces s ≠ [] ∧ ∀ piece ∈ alpnPieces s, piece.length ≤ 255) := by
    unfold StringGrammar
    rw [accepts, acceptable_string_iff]
    exact and_iff_left decodes
  rw [law]
  constructor
  · intro same round
    by_contra neither
    rw [not_or] at neither
    have short : ∀ piece ∈ alpnPieces s, piece.length ≤ 255 := fun piece member =>
      Nat.not_lt.mp fun long => neither.2 ⟨piece, member, long⟩
    exact (same.mpr ⟨neither.1, short⟩).1 round
  · intro told
    constructor
    · rintro ⟨counted, short⟩
      refine ⟨fun empty => counted ?_, short⟩
      rw [empty]
      rfl
    · rintro ⟨some, short⟩
      refine ⟨fun round => ?_, short⟩
      rcases told round with empty | ⟨piece, member, long⟩
      · exact some empty
      · exact Nat.not_lt.mpr (short piece member) long

/-- **When the ALPN encoder accepts exactly its grammar, and can be undone**: on a string, exactly if
the `int` that counts its pieces has not come round to zero, or a piece is too long; on an array
always. A list has one encoding in both forms exactly if that count has not come round. -/
theorem alpn_grammar_iff (piece s : Bytes) (elements : HashTable) :
    (IsTrimmed (alpnTrim piece) ∧ ∃ before after,
      piece = before ++ alpnTrim piece ++ after ∧ ∀ char ∈ before ++ after, char = 32 ∨ char = 9) ∧
    (∀ (start final : List Bytes) (result : ZendResult ZendString),
      Run converting (phpQuicAlpnFromZval (.string s)) start result final →
        (StringGrammar s result ↔ ((alpnPieces s).length % 2 ^ 32 = 0 →
          alpnPieces s = [] ∨ ∃ piece ∈ alpnPieces s, 255 < piece.length))) ∧
    (∀ (converted final : List Bytes) (result : ZendResult ZendString),
      converted.length = elements.length →
      Run converting (phpQuicAlpnFromZval (.array elements)) converted result final →
        ((∃ out, result = .ok out) ↔ elements ≠ [] ∧ ∀ entry ∈ converted, IsProtocol entry) ∧
        ∀ out, result = .ok out → Wire.decode out.bytes = some converted) ∧
    ∀ (protocols start final final' : List Bytes) (joined listed : ZendResult ZendString),
      protocols ≠ [] →
      (∀ proto ∈ protocols, IsProtocol proto ∧ (44 : UInt8) ∉ proto ∧ IsTrimmed proto) →
      elements.map Prod.snd = protocols.map Zval.string →
      Run converting (phpQuicAlpnFromZval (.string ([44].intercalate protocols))) start joined
        final →
      Run converting (phpQuicAlpnFromZval (.array elements)) protocols listed final' →
      ((∃ out out', joined = .ok out ∧ listed = .ok out' ∧ out.bytes = out'.bytes) ↔
        protocols.length % 2 ^ 32 ≠ 0) := by
  refine ⟨alpnTrim_spec piece, fun start final result ran => stringGrammar_iff ran,
    fun converted final result whole ran => ?_,
    fun protocols start final final' joined listed nonempty plain values first second =>
      alpnForms_agree_iff nonempty plain values first second⟩
  rw [← acceptable_array_iff whole]
  exact alpn_decodes whole (List.append_nil converted).symm ran

/-- An environment whose conversions are known beforehand. -/
def convertingHandler : Handler openssl (List Bytes) := fun s call =>
  match call with
  | .zvalGetString _ => (s.headD [], s.tail)
  | call => (succeeding call, s)

theorem convertingHandler_allowed (s : List Bytes) (call : Call) :
    converting s call (convertingHandler s call).1 (convertingHandler s call).2 := by
  cases call with
  | zvalGetString value => exact ⟨rfl, rfl⟩
  | _ => rfl

/-- `['h3', 'h2']`. -/
def http : List Bytes := [text "h3", text "h2"]

/-- A text with blanks and an empty piece, and a list in both forms. -/
theorem alpn_grammar_example :
    (∃ out, (exec convertingHandler (phpQuicAlpnFromZval (.string (text "\th3 ,,h2"))) []).1 =
        .ok out ∧ Wire.decode out.bytes = some http) ∧
      ∃ out out', (exec convertingHandler (phpQuicAlpnFromZval (.string (text "h3,h2"))) []).1 =
        .ok out ∧
        (exec convertingHandler (phpQuicAlpnFromZval
          (.array [(.index 0, .string (text "h3")), (.index 1, .string (text "h2"))])) http).1 =
        .ok out' ∧ out.bytes = out'.bytes := by
  have ran (spec : Zval) (start : List Bytes) :=
    run_exec convertingHandler_allowed (phpQuicAlpnFromZval spec) start
  obtain ⟨-, strings, -, lists⟩ := alpn_grammar_iff [] (text "\th3 ,,h2")
    [(.index 0, .string (text "h3")), (.index 1, .string (text "h2"))]
  obtain ⟨accepts, decodes⟩ := (strings _ _ _ (ran (.string (text "\th3 ,,h2")) [])).mpr
    fun round => absurd round (by decide)
  obtain ⟨out, made⟩ := accepts.mpr (by decide)
  refine ⟨⟨out, made, decodes out made⟩, ?_⟩
  exact (lists http [] _ _ _ _ (by decide) (by decide) rfl (ran _ []) (ran _ http)).mpr (by decide)

/-- `'a'` so many times, joined by commas. -/
def joinedAs (number : Nat) : Bytes := [44].intercalate (List.replicate number (text "a"))

theorem joinedAs_pieces {number : Nat} (positive : 0 < number) :
    alpnPieces (joinedAs number) = List.replicate number (text "a") := by
  refine alpnPieces_intercalate (fun empty => ?_) fun proto member => ?_
  · have length := congrArg List.length empty
    rw [List.length_replicate, List.length_nil] at length
    omega
  · rw [List.eq_of_mem_replicate member]
    decide

/-- **2^32 protocols in a string are refused as an empty string.** -/
theorem alpn_count_overflows :
    alpnPieces (joinedAs (2 ^ 32)) ≠ [] ∧
    (∀ piece ∈ alpnPieces (joinedAs (2 ^ 32)), piece.length ≤ 255) ∧
    ∀ start, Run converting (phpQuicAlpnFromZval (.string (joinedAs (2 ^ 32)))) start
      (.error (snprintf errlen (text "ALPN string is empty"))) start := by
  have positive : 0 < 2 ^ 32 := Nat.two_pow_pos 32
  have pieces := joinedAs_pieces positive
  have valid : ∀ piece ∈ alpnPieces (joinedAs (2 ^ 32)), IsProtocol piece := by
    intro piece member
    rw [pieces] at member
    rw [List.eq_of_mem_replicate member]
    decide
  have length : (alpnPieces (joinedAs (2 ^ 32))).length = 2 ^ 32 := by
    rw [pieces, List.length_replicate]
  refine ⟨fun empty => ?_, fun piece member => (valid piece member).2, fun start => ?_⟩
  · rw [empty] at length
    exact absurd length (Nat.ne_of_lt positive)
  · rw [phpQuicAlpnFromZval, alpnEncode_overflow valid (by rw [length, Nat.mod_self])]
    exact .done _ _

/-! ### Negotiation -/

/-- What `SSL_select_next_proto` does on two lists of protocols of 1 to 255 bytes: the first of the
server's that is also one of the client's. Without one `*out` is set as well. -/
structure WalksLists (select : Bytes → Bytes → NextProto × Bytes) : Prop where
  negotiated : ∀ server client protocols offered proto,
    (∀ item ∈ protocols, IsProtocol item) → (∀ item ∈ offered, IsProtocol item) →
    Wire.decode server = some protocols → Wire.decode client = some offered →
    protocols.find? (· ∈ offered) = some proto → select server client = (.negotiated, proto)
  no_overlap : ∀ server client protocols offered,
    (∀ item ∈ protocols, IsProtocol item) → (∀ item ∈ offered, IsProtocol item) →
    Wire.decode server = some protocols → Wire.decode client = some offered →
    protocols.find? (· ∈ offered) = none → (select server client).1 ≠ .negotiated

/-- The protocol of a connection after the callback: OpenSSL takes `*out` on success only. -/
def chosenProtocol : TlsextErr × Bytes → Option Bytes
  | (.ok, out) => some out
  | _ => none

/-- The callback on two lists it can read. -/
theorem quicAlpnSelectCb_cases {select : Bytes → Bytes → NextProto × Bytes}
    (walks : WalksLists select) {data : QuicAlpnData} {input : Bytes}
    {protocols offered : List Bytes} (short : data.alpn.bytes.length ≤ 65535)
    (mine : ∀ item ∈ protocols, IsProtocol item) (yours : ∀ item ∈ offered, IsProtocol item)
    (own : Wire.decode data.alpn.bytes = some protocols)
    (theirs : Wire.decode input = some offered) :
    (∃ proto, protocols.find? (· ∈ offered) = some proto ∧
        quicAlpnSelectCb select data input = (.ok, proto)) ∨
      protocols.find? (· ∈ offered) = none ∧
        (quicAlpnSelectCb select data input).1 = .alertFatal := by
  have whole : data.alpn.bytes.take (data.alpn.bytes.length % 2 ^ 32) = data.alpn.bytes := by
    rw [Nat.mod_eq_of_lt (by omega), List.take_length]
  unfold quicAlpnSelectCb
  rw [whole]
  cases found : protocols.find? (· ∈ offered) with
  | some proto =>
      rw [walks.negotiated _ _ _ _ proto mine yours own theirs found]
      exact .inl ⟨proto, rfl, rfl⟩
  | none =>
      have differs := walks.no_overlap _ _ _ _ mine yours own theirs found
      refine .inr ⟨rfl, ?_⟩
      show (if (select data.alpn.bytes input).1 ≠ .negotiated then _ else _ : TlsextErr × Bytes).1 = _
      rw [if_pos differs]

/-- **Negotiation is correct from the specifications to the selected protocol.** -/
theorem alpn_negotiation {select : Bytes → Bytes → NextProto × Bytes} (walks : WalksLists select)
    {clientSpec serverSpec : Zval} {clientConverted serverConverted final final' : List Bytes}
    {client server : ZendString} (clientWhole : Converts clientSpec clientConverted)
    (serverWhole : Converts serverSpec serverConverted)
    (clientRan : Run converting (phpQuicAlpnFromZval clientSpec) clientConverted (.ok client) final)
    (serverRan : Run converting (phpQuicAlpnFromZval serverSpec) serverConverted (.ok server) final')
    (short : server.bytes.length ≤ 65535) (id : Nat) :
    ((quicAlpnSelectCb select ⟨id, server⟩ client.bytes).1 = .ok ↔
      ∃ proto ∈ alpnProtocols serverSpec serverConverted,
        proto ∈ alpnProtocols clientSpec clientConverted) ∧
    ((quicAlpnSelectCb select ⟨id, server⟩ client.bytes).1 ≠ .ok →
      (quicAlpnSelectCb select ⟨id, server⟩ client.bytes).1 = .alertFatal) ∧
    chosenProtocol (quicAlpnSelectCb select ⟨id, server⟩ client.bytes) =
      (alpnProtocols serverSpec serverConverted).find?
        (· ∈ alpnProtocols clientSpec clientConverted) := by
  have reads {spec : Zval} {converted final : List Bytes} {out : ZendString}
      (whole : Converts spec converted)
      (ran : Run converting (phpQuicAlpnFromZval spec) converted (.ok out) final) :
      (∀ proto ∈ alpnProtocols spec converted, IsProtocol proto) ∧
        Wire.decode out.bytes = some (alpnProtocols spec converted) := by
    obtain ⟨accepts, decodes⟩ := alpn_decodes whole (List.append_nil converted).symm ran
    exact ⟨(accepts.mp ⟨out, rfl⟩).valid, decodes out rfl⟩
  obtain ⟨mine, own⟩ := reads serverWhole serverRan
  obtain ⟨yours, theirs⟩ := reads clientWhole clientRan
  have fits : (QuicAlpnData.mk id server).alpn.bytes.length ≤ 65535 := short
  rcases quicAlpnSelectCb_cases walks fits mine yours own theirs with
    ⟨proto, found, answered⟩ | ⟨none_found, answered⟩
  · rw [answered, found]
    have common : proto ∈ alpnProtocols clientSpec clientConverted := by
      simpa using List.find?_some found
    exact ⟨⟨fun _ => ⟨proto, List.mem_of_find?_eq_some found, common⟩, fun _ => rfl⟩,
      fun failed => absurd rfl failed, rfl⟩
  · have failed : (quicAlpnSelectCb select ⟨id, server⟩ client.bytes).1 ≠ .ok := by
      rw [answered]
      exact TlsextErr.noConfusion
    refine ⟨⟨fun accepted => absurd accepted failed, ?_⟩, fun _ => answered, ?_⟩
    · rintro ⟨proto, member, common⟩
      have absent := List.find?_eq_none.mp none_found proto member
      simp [common] at absent
    · rw [none_found]
      generalize quicAlpnSelectCb select ⟨id, server⟩ client.bytes = answer at answered
      obtain ⟨code, out⟩ := answer
      obtain rfl : code = .alertFatal := answered
      rfl

/-- `SSL_select_next_proto` on well-formed lists. -/
def walkLists (server client : Bytes) : NextProto × Bytes :=
  match Wire.decode server, Wire.decode client with
  | some protocols, some offered =>
    match protocols.find? (· ∈ offered) with
    | some proto => (.negotiated, proto)
    | none => (.noOverlap, offered.headD [])
  | _, _ => (.noOverlap, [])

theorem walkLists_walks : WalksLists walkLists := by
  constructor
  · intro server client protocols offered proto _ _ own theirs found
    rw [walkLists, own, theirs]
    dsimp only
    rw [found]
  · intro server client protocols offered _ _ own theirs found
    rw [walkLists, own, theirs]
    dsimp only
    rw [found]
    exact NextProto.noConfusion

/-- The server's order decides. -/
theorem alpn_negotiation_example :
    chosenProtocol (quicAlpnSelectCb walkLists ⟨1, ⟨1, Wire.encode http⟩⟩
      (Wire.encode [text "doq", text "h2", text "h3"])) = some (text "h3") := by
  have ran (spec : Zval) := run_exec convertingHandler_allowed (phpQuicAlpnFromZval spec) []
  have whole (s : Bytes) : Converts (.string s) [] := trivial
  exact (alpn_negotiation walkLists_walks (whole (text "doq, h2, h3")) (whole (text "h3,h2"))
    (ran _) (ran _) (by decide) 1).2.2

end PhpQuic
