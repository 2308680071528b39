import Mathlib.Algebra.Group.Nat.Defs
import Mathlib.Data.List.TakeWhile
import EdgeGateway.Backlog.Journal

/-!
# Entry keys

A journal reads the key of an entry off its bytes. In the encoding of a text a zero byte is its
U+0000 and nothing else, so what stands before the first zero byte of an entry key is the text of
the key up to its first U+0000: `keyOf?_entryKey`. Scanning for a text without U+0000 finds exactly
the entries whose key it is (`isPrefixOf_stem_iff`), and the entry keys of one key ascend with
their sequence numbers (`entryKey_lt`), as long as these fit twenty digits.
-/

namespace EdgeGateway

/-! ## Texts and zero bytes -/

/-- Whether a text holds no U+0000. -/
def ZeroFree (text : String) : Prop := '\x00' ∉ text.toList

instance (text : String) : Decidable (ZeroFree text) := inferInstanceAs (Decidable (_ ∉ _))

/-- What stands in a text before its first U+0000. -/
def beforeZero (text : String) : String := String.ofList (text.toList.takeWhile (· ≠ '\x00'))

/-- A text without U+0000 is all that stands before one. -/
theorem ZeroFree.beforeZero_eq {text : String} (zeroFree : ZeroFree text) :
    beforeZero text = text := by
  have whole : text.toList.takeWhile (· ≠ '\x00') = text.toList := by
    refine List.takeWhile_eq_self_iff.2 fun character member => ?_
    refine decide_eq_true ?_
    rintro rfl
    exact zeroFree member
  rw [beforeZero, whole, String.ofList_toList]

/-- No U+0000 stands before the first one. -/
theorem zeroFree_beforeZero (text : String) : ZeroFree (beforeZero text) := by
  intro member
  rw [beforeZero, String.toList_ofList] at member
  simpa using List.mem_takeWhile_imp member

namespace Bytes

/-- The encoding of a text is that of its characters. -/
theorem ofText_eq_flatMap (text : String) :
    ofText text = text.toList.flatMap String.utf8EncodeChar := by
  rw [ofText, String.toUTF8, ← String.utf8Encode_toList, List.utf8Encode,
    List.toList_data_toByteArray]

/-- U+0000 is encoded as a zero byte. -/
theorem utf8EncodeChar_zero : String.utf8EncodeChar '\x00' = [0] := by decide

/-- No other character has a zero byte in its encoding. -/
theorem zero_notMem_utf8EncodeChar {character : Char} (nonzero : character ≠ '\x00') :
    (0 : UInt8) ∉ String.utf8EncodeChar character := by
  have positive : character.val.toNat ≠ 0 := by
    intro zero
    refine nonzero (Char.ext (UInt32.toNat_inj.1 ?_))
    simpa using zero
  have byte : ∀ number : Nat, number % 256 ≠ 0 → (0 : UInt8) ≠ UInt8.ofNat number := by
    intro number remainder same
    have worth := congrArg UInt8.toNat same
    rw [UInt8.toNat_ofNat'] at worth
    exact remainder worth.symm
  unfold String.utf8EncodeChar
  have small : character.val.toNat < 0x110000 := by
    rcases character.valid with low | high
    · omega
    · exact high.2
  dsimp only
  split
  · simp only [List.mem_singleton]
    exact byte _ (by omega)
  · split
    · simp only [List.mem_cons, List.not_mem_nil, or_false, not_or]
      exact ⟨byte _ (by omega), byte _ (by omega)⟩
    · split
      · simp only [List.mem_cons, List.not_mem_nil, or_false, not_or]
        exact ⟨byte _ (by omega), byte _ (by omega), byte _ (by omega)⟩
      · simp only [List.mem_cons, List.not_mem_nil, or_false, not_or]
        exact ⟨byte _ (by omega), byte _ (by omega), byte _ (by omega), byte _ (by omega)⟩

/-- What stands before the first zero byte of an encoding encodes what stands before U+0000. -/
theorem takeWhile_ofText (text : String) :
    (ofText text).takeWhile (· ≠ 0) = ofText (beforeZero text) := by
  rw [ofText_eq_flatMap, ofText_eq_flatMap, beforeZero, String.toList_ofList]
  induction text.toList with
  | nil => rfl
  | cons character characters inductionHypothesis =>
    by_cases zero : character = '\x00'
    · subst zero
      simp [utf8EncodeChar_zero]
    · have nonzero : ∀ byte ∈ String.utf8EncodeChar character, decide (byte ≠ 0) = true := by
        intro byte member
        refine decide_eq_true ?_
        rintro rfl
        exact zero_notMem_utf8EncodeChar zero member
      rw [List.flatMap_cons, List.takeWhile_append_of_pos nonzero, inductionHypothesis]
      simp [zero]

/-- A sequence of bytes is read as the text that it encodes. -/
theorem text?_eq_some_iff {bytes : Bytes} {text : String} :
    text? bytes = some text ↔ bytes = ofText text := by
  constructor
  · intro read
    unfold text? String.fromUTF8? at read
    split at read
    · rename_i valid
      obtain rfl := Option.some.inj read
      simp [ofText, String.toUTF8, String.fromUTF8]
    · cases read
  · rintro rfl
    exact text?_ofText text

end Bytes

namespace Journal

/-! ## The key of an entry -/

/-- An entry key begins with the text of its key up to the first U+0000, and a zero byte. -/
theorem keyOf?_entryKey (key : String) (sequence : Nat) :
    keyOf? (entryKey key sequence) = some (beforeZero key) := by
  have cut : (entryKey key sequence).takeWhile (· ≠ 0) = Bytes.ofText (beforeZero key) := by
    rw [← Bytes.takeWhile_ofText, entryKey, stem, List.append_assoc, List.takeWhile_append]
    split
    · rename_i whole
      rw [List.singleton_append, List.takeWhile_cons_of_neg (by decide), List.append_nil]
      exact ((List.takeWhile_prefix _).eq_of_length whole).symm
    · rfl
  have separated : (entryKey key sequence).contains 0 = true := by
    simp [entryKey, stem]
  rw [keyOf?, if_pos separated, cut, Bytes.text?_ofText]

/-- The key of an entry key holds no U+0000. -/
theorem zeroFree_of_keyOf? {bytes : Bytes} {key : String} (keyed : keyOf? bytes = some key) :
    ZeroFree key := by
  unfold keyOf? at keyed
  split at keyed
  · rw [Bytes.text?_eq_some_iff] at keyed
    have encodings : Bytes.ofText (beforeZero key) = Bytes.ofText key := by
      rw [← Bytes.takeWhile_ofText, ← keyed, List.takeWhile_idem]
    have texts := congrArg Bytes.text? encodings
    rw [Bytes.text?_ofText, Bytes.text?_ofText] at texts
    rw [← Option.some.inj texts]
    exact zeroFree_beforeZero key
  · cases keyed

/-- The entry keys that begin with the stem of a text without U+0000 are those whose key it is. -/
theorem isPrefixOf_stem_iff {key : String} (zeroFree : ZeroFree key) (bytes : Bytes) :
    (stem key).isPrefixOf bytes = true ↔ keyOf? bytes = some key := by
  have whole : (Bytes.ofText key).takeWhile (· ≠ 0) = Bytes.ofText key := by
    rw [Bytes.takeWhile_ofText, zeroFree.beforeZero_eq]
  rw [List.isPrefixOf_iff_prefix]
  constructor
  · rintro ⟨rest, rfl⟩
    have cut : (stem key ++ rest).takeWhile (· ≠ 0) = Bytes.ofText key := by
      rw [stem, List.append_assoc, List.takeWhile_append, whole, if_pos rfl]
      simp [List.takeWhile_cons_of_neg]
    have separated : (stem key ++ rest).contains 0 = true := by simp [stem]
    rw [keyOf?, if_pos separated, cut, Bytes.text?_ofText]
  · intro keyed
    unfold keyOf? at keyed
    split at keyed
    · rename_i separated
      rw [Bytes.text?_eq_some_iff] at keyed
      rw [stem, ← keyed]
      have parts := List.takeWhile_append_dropWhile (p := (· ≠ (0 : UInt8))) (l := bytes)
      cases rest : bytes.dropWhile (· ≠ (0 : UInt8)) with
      | nil =>
        rw [List.dropWhile_eq_nil_iff] at rest
        simpa using rest 0 (List.contains_iff_mem.1 separated)
      | cons byte later =>
        have zero : byte = 0 := by
          have stopped := List.head?_dropWhile_not (· ≠ (0 : UInt8)) bytes
          rw [rest] at stopped
          simpa using stopped
        refine ⟨later, ?_⟩
        rw [List.append_assoc, List.singleton_append]
        rw [rest, zero] at parts
        exact parts
    · cases keyed

/-! ## The order of entry keys -/

/-- Of two sequences of equal length the order is decided in front of what follows them. -/
theorem append_lt_append {first second : Bytes} (lengths : first.length = second.length)
    (less : first < second) (firstRest secondRest : Bytes) :
    first ++ firstRest < second ++ secondRest := by
  induction first generalizing second with
  | nil =>
    obtain rfl := List.length_eq_zero_iff.1 lengths.symm
    cases less
  | cons byte first inductionHypothesis =>
    cases second with
    | nil => cases lengths
    | cons other second =>
      rw [List.cons_append, List.cons_append, List.cons_lt_cons_iff]
      rcases List.cons_lt_cons_iff.1 less with below | ⟨same, later⟩
      · exact .inl below
      · exact .inr ⟨same, inductionHypothesis (Nat.succ.inj lengths) later⟩

/-- A number in at least so many digits, as bytes. -/
def paddedDigits (width number : Nat) : Bytes :=
  (List.replicate (width - (Nat.toDigits 10 number).length) '0' ++ Nat.toDigits 10 number).map
    fun digit => digit.toNat.toUInt8

/-- The last digit comes off the end of a padded number. -/
theorem paddedDigits_succ {width : Nat} (wide : 0 < width) (number : Nat) :
    paddedDigits (width + 1) number =
      paddedDigits width (number / 10) ++ [(Nat.digitChar (number % 10)).toNat.toUInt8] := by
  unfold paddedDigits
  by_cases single : number < 10
  · obtain ⟨narrower, rfl⟩ := Nat.exists_eq_succ_of_ne_zero (Nat.pos_iff_ne_zero.1 wide)
    rw [Nat.div_eq_of_lt single, Nat.mod_eq_of_lt single, Nat.toDigits_of_lt_base single,
      Nat.toDigits_zero]
    simp [List.replicate_succ']
  · rw [Nat.toDigits_of_base_le (by decide) (by omega)]
    simp

/-- A number that fits the width is padded to the width. -/
theorem length_paddedDigits {width number : Nat} (wide : 0 < width) (fits : number < 10 ^ width) :
    (paddedDigits width number).length = width := by
  have length := (Nat.length_toDigits_le_iff (by decide : 1 < 10) wide).2 fits
  simp only [paddedDigits, List.length_map, List.length_append, List.length_replicate]
  omega

/-- Digits are ordered as what they are worth. -/
theorem digit_lt : ∀ second < 10, ∀ first < second,
    (Nat.digitChar first).toNat.toUInt8 < (Nat.digitChar second).toNat.toUInt8 := by
  decide

/-- Padded numbers are ordered as the numbers. -/
theorem paddedDigits_lt {width first second : Nat} (wide : 0 < width) (less : first < second)
    (fits : second < 10 ^ width) : paddedDigits width first < paddedDigits width second := by
  induction width, wide using Nat.le_induction generalizing first second with
  | base =>
    have single : paddedDigits 1 first = [(Nat.digitChar first).toNat.toUInt8] := by
      simp [paddedDigits, Nat.toDigits_of_lt_base (b := 10) (n := first) (by omega)]
    have otherSingle : paddedDigits 1 second = [(Nat.digitChar second).toNat.toUInt8] := by
      simp [paddedDigits, Nat.toDigits_of_lt_base (b := 10) (n := second) (by omega)]
    rw [single, otherSingle, List.cons_lt_cons_iff]
    exact .inl (digit_lt second (by omega) first less)
  | succ width wide inductionHypothesis =>
    rw [Nat.pow_succ] at fits
    rw [paddedDigits_succ wide, paddedDigits_succ wide]
    by_cases leading : first / 10 < second / 10
    · have lengths : (paddedDigits width (first / 10)).length =
          (paddedDigits width (second / 10)).length := by
        rw [length_paddedDigits wide (by omega), length_paddedDigits wide (by omega)]
      exact append_lt_append lengths (inductionHypothesis leading (by omega)) _ _
    · have same : first / 10 = second / 10 := by omega
      rw [same]
      refine List.append_left_lt (List.cons_lt_cons_iff.2 (.inl ?_))
      exact digit_lt _ (Nat.mod_lt _ (by decide)) _ (by omega)

/-- The entry keys of a key ascend with the sequence numbers. -/
theorem entryKey_lt (key : String) {first second : Nat} (less : first < second)
    (fits : second < 10 ^ 20) : entryKey key first < entryKey key second :=
  List.append_left_lt (paddedDigits_lt (by decide) less fits)

end Journal

end EdgeGateway
