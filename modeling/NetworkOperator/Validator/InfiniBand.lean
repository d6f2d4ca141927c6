import NetworkOperator.Validator.Safety
import NetworkOperator.Validator.Languages

/-!
# Validator — the InfiniBand GUID pool

`ibKubernetesSpecWrapper.validate` checks the bounds `pKeyGUIDPoolRangeStart` and
`pKeyGUIDPoolRangeEnd`.  Its messages give the format `xx:xx:xx:xx:xx:xx:xx:xx` with hexadecimal
numbers: eight bytes, each as two digits in either case, colon-separated (`WritesGUID`).  The
range is valid when the end is above the start, the bounds read as the unsigned numbers whose
big-endian bytes they write (`bigEndian`).

* `isValidPKeyGUID_iff`: the GUID pattern accepts exactly the strings in that format.
* `bigIntSetString16_of_writesGUID`: colons dropped, `SetString(_, 16)` parses such a string as
  the big-endian value of its bytes.
* `ibKubernetes_validate_cases`: so the check gives a format error for each bound not in the
  format, else one range error when the end is not above the start, else none.
-/

namespace NetworkOperator.Validator

open NetworkOperator.V1alpha1

/-! ### GUIDs, as the messages describe them -/

/-- The two ways a hexadecimal digit of value `n` is written: lower and upper case. -/
def hexDigitChars (n : Nat) : List Char := [Nat.digitChar n, (Nat.digitChar n).toUpper]

/-- `group` writes the byte `b`: two hexadecimal digits, the high half first, in either case. -/
def WritesByte (group : List Char) (b : Nat) : Prop :=
  b < 256 ∧ ∃ hi lo, group = [hi, lo] ∧ hi ∈ hexDigitChars (b / 16) ∧ lo ∈ hexDigitChars (b % 16)

/-- `guid` writes the eight bytes `bytes` in the format the messages give,
`xx:xx:xx:xx:xx:xx:xx:xx`: a group of two digits per byte, colon-separated, nothing before or
after. -/
def WritesGUID (guid : String) (bytes : List Nat) : Prop :=
  bytes.length = 8 ∧
    ∃ groups, List.Forall₂ WritesByte groups bytes ∧ guid.toList = [':'].intercalate groups

/-- `guid` is in the GUID format. -/
def IsGUID (guid : String) : Prop := ∃ bytes, WritesGUID guid bytes

/-- The number whose big-endian bytes are `bytes`. -/
def bigEndian (bytes : List Nat) : Nat := bytes.foldl (fun acc b => acc * 256 + b) 0

/-! ### Digits -/

/-- Each way of writing a digit is one the pattern's class holds and `SetString` reads as
its value. -/
theorem hexDigitChars_spec : ∀ n < 16, ∀ c ∈ hexDigitChars n,
    hexClass.test c = true ∧ hexDigitValue c = some n := by decide

/-- The code points of the two ways a hexadecimal digit is written. -/
theorem hexDigitChars_toNat : ∀ n < 16,
    (Nat.digitChar n).toNat = (if n < 10 then 48 + n else 87 + n) ∧
      (Nat.digitChar n).toUpper.toNat = (if n < 10 then 48 + n else 55 + n) := by decide

/-- A digit `SetString` reads as `n` is one of the two ways of writing `n`. -/
theorem mem_hexDigitChars_of_hexDigitValue {c : Char} {n : Nat} (h : hexDigitValue c = some n) :
    n < 16 ∧ c ∈ hexDigitChars n := by
  unfold hexDigitValue at h
  simp only [char_le_iff, Char.reduceToNat] at h
  have hn : n < 16 := by split_ifs at h <;> cases h <;> omega
  obtain ⟨hlow, hup⟩ := hexDigitChars_toNat n hn
  refine ⟨hn, ?_⟩
  simp only [hexDigitChars, List.mem_cons, List.mem_singleton, List.not_mem_nil, or_false,
    char_eq_iff, hlow, hup]
  split_ifs at h <;> cases h <;> split_ifs <;> omega

/-- Two characters write a byte exactly when both are hexadecimal digits. -/
theorem exists_writesByte_iff (x y : Char) :
    (∃ b, WritesByte [x, y] b) ↔ hexClass.test x = true ∧ hexClass.test y = true := by
  constructor
  · rintro ⟨b, hb, hi, lo, he, hhi, hlo⟩
    obtain ⟨rfl, rfl⟩ : x = hi ∧ y = lo := by simpa using he
    exact ⟨(hexDigitChars_spec _ (by omega) _ hhi).1, (hexDigitChars_spec _ (by omega) _ hlo).1⟩
  · rintro ⟨hx, hy⟩
    obtain ⟨vx, hvx⟩ := Option.isSome_iff_exists.mp (hexDigitValue_isSome hx)
    obtain ⟨vy, hvy⟩ := Option.isSome_iff_exists.mp (hexDigitValue_isSome hy)
    obtain ⟨hvx16, hxmem⟩ := mem_hexDigitChars_of_hexDigitValue hvx
    obtain ⟨hvy16, hymem⟩ := mem_hexDigitChars_of_hexDigitValue hvy
    refine ⟨16 * vx + vy, by omega, x, y, rfl, ?_, ?_⟩
    · rwa [show (16 * vx + vy) / 16 = vx by omega]
    · rwa [show (16 * vx + vy) % 16 = vy by omega]


/-! ### The GUID pattern -/

/-- Pointwise choice: a list whose elements each relate to something relates pointwise to a list. -/
theorem exists_forall₂_of_forall_mem {α β : Type} {R : α → β → Prop} {l : List α}
    (h : ∀ a ∈ l, ∃ b, R a b) : ∃ l', List.Forall₂ R l l' := by
  induction l with
  | nil => exact ⟨[], .nil⟩
  | cons a l ih =>
    obtain ⟨b, hb⟩ := h a (.head _)
    obtain ⟨l', hl'⟩ := ih fun a ha => h a (.tail _ ha)
    exact ⟨b :: l', .cons hb hl'⟩

/-- Each element of a list related pointwise to another relates to something. -/
theorem exists_of_forall₂ {α β : Type} {R : α → β → Prop} {l : List α} {l' : List β}
    (h : List.Forall₂ R l l') : ∀ a ∈ l, ∃ b, R a b := by
  induction h with
  | nil => simp
  | cons hab _ ih => exact List.forall_mem_cons.mpr ⟨⟨_, hab⟩, ih⟩

/-- Groups, each followed by the separator, then a last group: the groups joined by the
separator. -/
theorem intercalate_concat {α : Type} (sep : α) (gs : List (List α)) (g : List α) :
    [sep].intercalate (gs ++ [g]) = (gs.map (· ++ [sep])).flatten ++ g := by
  induction gs with
  | nil => simp [List.intercalate]
  | cons h t ih =>
    obtain ⟨m, ms, hms⟩ := List.exists_cons_of_ne_nil (List.append_ne_nil_of_right_ne_nil t
      (List.cons_ne_nil g []))
    rw [List.cons_append, hms, List.intercalate, List.intersperse_cons_cons, List.flatten_cons,
      List.flatten_cons, ← List.intercalate, ← hms, ih]
    simp

/-- `[0-9A-Fa-f]{2}`: two characters writing a byte. -/
theorem matches_hexPair_iff (g : List Char) :
    (Regex.rep (.cls hexClass) 2 (some 2)).Matches g ↔ ∃ b, WritesByte g b := by
  rw [Regex.matches_rep_cls_iff]
  constructor
  · rintro ⟨h2, h2', hk⟩
    obtain ⟨x, y, rfl⟩ := List.length_eq_two.mp (le_antisymm (h2' 2 rfl) h2)
    exact (exists_writesByte_iff x y).mpr ⟨hk x (by simp), hk y (by simp)⟩
  · rintro ⟨b, hb, x, y, rfl, hx, hy⟩
    obtain ⟨hx', hy'⟩ := (exists_writesByte_iff x y).mp ⟨b, hb, x, y, rfl, hx, hy⟩
    exact ⟨le_rfl, fun m hm => by cases hm; rfl, by simp [hx', hy']⟩

/-- `([0-9A-Fa-f]{2}:){7}`: seven groups writing bytes, each followed by a colon. -/
theorem matches_hexGroups_iff (u : List Char) :
    (Regex.rep (.seq (.rep (.cls hexClass) 2 (some 2)) (.cls (literal ':'))) 7 (some 7)).Matches u ↔
      ∃ gs : List (List Char), gs.length = 7 ∧ (∀ g ∈ gs, ∃ b, WritesByte g b) ∧
        u = (gs.map (· ++ [':'])).flatten := by
  rw [Regex.matches_rep_iff]
  constructor
  · rintro ⟨ws, hmin, hmax, hws, rfl⟩
    obtain ⟨gs, hgs, rfl⟩ := exists_map_of_forall_mem (f := (· ++ [':']))
        (P := fun g => ∃ b, WritesByte g b) fun w hw => by
      obtain ⟨g, c, rfl, hg, hc⟩ := (Regex.matches_seq_iff _ _ _).mp (hws w hw)
      obtain ⟨d, rfl, hd⟩ := (Regex.matches_cls_iff _ _).mp hc
      rw [literal_test, beq_iff_eq] at hd
      exact ⟨g, (matches_hexPair_iff g).mp hg, by rw [hd]⟩
    simp only [List.length_map] at hmin hmax
    exact ⟨gs, le_antisymm (hmax 7 rfl) hmin, hgs, rfl⟩
  · rintro ⟨gs, hlen, hgs, rfl⟩
    refine ⟨gs.map (· ++ [':']), by simp [hlen], by simp [hlen], fun w hw => ?_, rfl⟩
    obtain ⟨g, hg, rfl⟩ := List.mem_map.mp hw
    exact .seq ((matches_hexPair_iff g).mpr (hgs g hg)) (.cls (by decide))

/-- **The GUID pattern is the messages' format**: `isValidPKeyGUID` accepts exactly the strings
that write eight bytes as `xx:xx:xx:xx:xx:xx:xx:xx`, in either case. -/
theorem isValidPKeyGUID_iff (guid : String) : isValidPKeyGUID guid = true ↔ IsGUID guid := by
  have hre : pKeyGUIDRegexp = .seq (.rep (.seq (.rep (.cls hexClass) 2 (some 2)) (.cls (literal ':'))) 7
      (some 7)) (.rep (.cls hexClass) 2 (some 2)) := rfl
  rw [isValidPKeyGUID, Regex.matchString_iff _ pKeyGUIDRegexp_wf, hre, Regex.matches_seq_iff]
  simp only [matches_hexGroups_iff, matches_hexPair_iff]
  constructor
  · rintro ⟨_, g, hguid, ⟨gs, hlen, hgs, rfl⟩, hg⟩
    obtain ⟨bytes, hbytes⟩ := exists_forall₂_of_forall_mem (R := WritesByte) (l := gs ++ [g])
      (List.forall_mem_append.mpr ⟨hgs, by simpa using hg⟩)
    refine ⟨bytes, by simp [← hbytes.length_eq, hlen], gs ++ [g], hbytes, ?_⟩
    rw [hguid, intercalate_concat]
  · rintro ⟨bytes, hlen, groups, hgroups, hguid⟩
    have hall := exists_of_forall₂ hgroups
    rcases List.eq_nil_or_concat groups with rfl | ⟨gs, g, rfl⟩
    · simp [← hgroups.length_eq] at hlen
    rw [List.concat_eq_append] at hall hguid hgroups
    refine ⟨_, g, by rw [hguid, intercalate_concat], ⟨gs, ?_, fun g' hg' => hall g' (by simp [hg']), rfl⟩,
      hall g (by simp)⟩
    simpa [← hgroups.length_eq] using hlen


/-! ### The value of a GUID -/

/-- `SetString` reads hexadecimal digits behind no sign as their value. -/
theorem bigIntSetString16_of_hex_head (d : Char) (ds : List Char) (hd : hexClass.test d = true) :
    bigIntSetString16 ⟨d :: ds⟩ = (hexValue 0 (d :: ds)).map (↑) := by
  have hminus : d ≠ '-' := by rintro rfl; revert hd; decide
  have hplus : d ≠ '+' := by rintro rfl; revert hd; decide
  unfold bigIntSetString16
  split
  · rename_i heq; cases heq; exact absurd rfl hminus
  · rename_i heq; cases heq; exact absurd rfl hplus
  · simp

/-- Reading the digits of the groups, in turn, is the big-endian value of the bytes they write. -/
theorem hexValue_flatten {groups : List (List Char)} {bytes : List Nat}
    (h : List.Forall₂ WritesByte groups bytes) (acc : Nat) :
    hexValue acc groups.flatten = some (bytes.foldl (fun acc b => acc * 256 + b) acc) := by
  induction h generalizing acc with
  | nil => rfl
  | @cons g b _ _ hb _ ih =>
    obtain ⟨hlt, hi, lo, rfl, hhi, hlo⟩ := hb
    have hbyte : (acc * 16 + b / 16) * 16 + b % 16 = acc * 256 + b := by omega
    simp only [List.flatten_cons, List.cons_append, hexValue, List.foldl_cons,
      (hexDigitChars_spec _ (by omega) _ hhi).2, (hexDigitChars_spec _ (by omega) _ hlo).2,
      Option.some_bind, hbyte, List.append_eq, List.nil_append, ih]

/-- **Colons dropped, a GUID parses as its bytes' big-endian value.** -/
theorem bigIntSetString16_of_writesGUID {guid : String} {bytes : List Nat} (h : WritesGUID guid bytes) :
    bigIntSetString16 (replaceAllColons guid) = some (bigEndian bytes : Int) := by
  obtain ⟨hlen, groups, hgroups, hguid⟩ := h
  have hchars : ∀ grp ∈ groups, ∀ c ∈ grp, hexClass.test c = true := fun grp hgrp c hc => by
    obtain ⟨b, hlt, hi, lo, rfl, hhi, hlo⟩ := exists_of_forall₂ hgroups grp hgrp
    simp only [List.mem_cons, List.mem_singleton, List.not_mem_nil, or_false] at hc
    rcases hc with rfl | rfl
    exacts [(hexDigitChars_spec _ (by omega) _ hhi).1, (hexDigitChars_spec _ (by omega) _ hlo).1]
  have hcolon : ∀ grp ∈ groups, ∀ c ∈ grp, c ≠ ':' := fun grp hgrp c hc h => by
    have := hchars grp hgrp c hc
    rw [h] at this
    revert this; decide
  obtain ⟨g, gs, rfl⟩ := List.exists_cons_of_ne_nil (show groups ≠ [] by
    rintro rfl; simp [← hgroups.length_eq] at hlen)
  have hreplace : replaceAllColons guid = ⟨(g :: gs).flatten⟩ := by
    simp only [replaceAllColons, hguid, intercalate_cons_eq, List.filter_append, List.flatten_cons]
    congr 1
    rw [List.filter_flatMap, List.filter_eq_self.mpr (by simpa using hcolon g (.head _)),
      List.flatten_eq_flatMap, List.flatMap_congr fun m hm => ?_]
    rw [List.filter_cons_of_neg (by simp), List.filter_eq_self.mpr (by simpa using hcolon m (.tail _ hm))]
    rfl
  obtain ⟨b, hlt, hi, lo, rfl, hhi, -⟩ := exists_of_forall₂ hgroups _ (.head _)
  rw [hreplace, List.flatten_cons, List.cons_append, bigIntSetString16_of_hex_head _ _
    (hchars _ (.head _) _ (.head _)), ← List.cons_append, ← List.flatten_cons, hexValue_flatten hgroups]
  rfl

/-! ### The check -/

/-- The error `ibKubernetesSpecWrapper.validate` gives a start bound not in the GUID format. -/
def startGUIDFormatError (fldPath : Path) (guid : String) : FieldError :=
  invalid (fldPath.child "pKeyGUIDPoolRangeStart") (.string guid)
    ("pKeyGUIDPoolRangeStart must be a valid GUID format:" ++ "xx:xx:xx:xx:xx:xx:xx:xx with Hexa numbers")

/-- The error it gives an end bound not in the GUID format. -/
def endGUIDFormatError (fldPath : Path) (guid : String) : FieldError :=
  invalid (fldPath.child "pKeyGUIDPoolRangeEnd") (.string guid)
    ("pKeyGUIDPoolRangeEnd must be a valid GUID format: " ++ "xx:xx:xx:xx:xx:xx:xx:xx with Hexa numbers")

/-- The error it gives a range whose end is not above its start. -/
def guidRangeError (fldPath : Path) (guid : String) : FieldError :=
  invalid (fldPath.child "pKeyGUIDPoolRangeEnd") (.string guid)
    "pKeyGUIDPoolRangeStart-pKeyGUIDPoolRangeEnd must be a valid range"

open Classical in
/-- **The InfiniBand check, case by case.**  For every pair of bounds: when one is not a GUID, one
format error for each bound that is not, and no range error; when both are, one range error if
the end's bytes, read big-endian, are not above the start's, and no error otherwise.  The range is
compared only on bounds whose colon-free text parses as hexadecimal. -/
theorem ibKubernetes_validate_cases (ibk : IBKubernetesSpec) (fldPath : Path) :
    ((¬ IsGUID ibk.pKeyGUIDPoolRangeStart ∨ ¬ IsGUID ibk.pKeyGUIDPoolRangeEnd) →
      ibKubernetesSpecWrapper.validate ibk fldPath =
        .ok ((if IsGUID ibk.pKeyGUIDPoolRangeStart then []
            else [startGUIDFormatError fldPath ibk.pKeyGUIDPoolRangeStart]) ++
          (if IsGUID ibk.pKeyGUIDPoolRangeEnd then []
            else [endGUIDFormatError fldPath ibk.pKeyGUIDPoolRangeEnd]))) ∧
    (∀ startBytes endBytes, WritesGUID ibk.pKeyGUIDPoolRangeStart startBytes →
      WritesGUID ibk.pKeyGUIDPoolRangeEnd endBytes →
      ibKubernetesSpecWrapper.validate ibk fldPath =
        .ok (if bigEndian endBytes ≤ bigEndian startBytes
          then [guidRangeError fldPath ibk.pKeyGUIDPoolRangeEnd] else [])) ∧
    (isValidPKeyGUID ibk.pKeyGUIDPoolRangeStart = true → isValidPKeyGUID ibk.pKeyGUIDPoolRangeEnd = true →
      (bigIntSetString16 (replaceAllColons ibk.pKeyGUIDPoolRangeStart)).isSome ∧
        (bigIntSetString16 (replaceAllColons ibk.pKeyGUIDPoolRangeEnd)).isSome) := by
  refine ⟨fun hnot => ?_, fun startBytes endBytes hs he => ?_, fun hs he =>
    ⟨pKeyGUID_setString _ hs, pKeyGUID_setString _ he⟩⟩
  · have hs := isValidPKeyGUID_iff ibk.pKeyGUIDPoolRangeStart
    have he := isValidPKeyGUID_iff ibk.pKeyGUIDPoolRangeEnd
    unfold ibKubernetesSpecWrapper.validate
    by_cases hS : IsGUID ibk.pKeyGUIDPoolRangeStart <;> by_cases hE : IsGUID ibk.pKeyGUIDPoolRangeEnd <;>
      simp_all [startGUIDFormatError, endGUIDFormatError]
  · have hrange : isValidPKeyRange ibk.pKeyGUIDPoolRangeStart ibk.pKeyGUIDPoolRangeEnd =
        .ok (decide (bigEndian startBytes < bigEndian endBytes)) := by
      simp [isValidPKeyRange, bigIntSetString16_of_writesGUID hs, bigIntSetString16_of_writesGUID he]
    unfold ibKubernetesSpecWrapper.validate
    rw [(isValidPKeyGUID_iff _).mpr ⟨_, hs⟩, (isValidPKeyGUID_iff _).mpr ⟨_, he⟩, hrange]
    by_cases hlt : bigEndian startBytes < bigEndian endBytes
    · simp [hlt, Nat.not_le.mpr hlt]
    · simp [hlt, Nat.not_lt.mp hlt, guidRangeError]

end NetworkOperator.Validator
