import NetworkOperator.Validator.RegexSpec

/-!
# Validator — what the name, prefix and version patterns accept

The languages of `sriovResourceNameRegex`, `rdmaResourceNameRegex`, `fqdnRegex` and the OFED
`versionPattern`, in words, from the semantics `Regex.Matches` and `Regex.matchString_iff`:

* `resourceName_patterns_eq_nameRule`: a resource name is accepted exactly when it is non-empty,
  made of ASCII letters, digits, '_' and '.' (for the RDMA shared device plugin also '-'), and
  starts and ends with a letter or digit: `nameRule`, the rule both rejection messages state.
* `isValidFQDN_iff`: a resource prefix is accepted exactly when its first label is a DNS label
  (`isDNSLabel`) and one label more at least follows, each of two ASCII letters or more.
* `isValidFQDN_ne_isFQDN`: so the prefix check is not the FQDN check its message names
  (`isFQDN`): it rejects `rdma.k8s.io` and accepts a second label of 64 letters.
* `isValidOFEDVersion_iff`: an OFED version is accepted exactly when it is three numbers or more,
  the first two joined by a dot, the third after a dash, each further one after a dot.
-/

namespace NetworkOperator.Validator

/-! ### Patterns built from classes -/

/-- A list each of whose elements is `f` of something with `P` is the map of `f` over a list of
such things. -/
theorem exists_map_of_forall_mem {α β : Type} {f : β → α} {P : β → Prop} {ws : List α}
    (h : ∀ w ∈ ws, ∃ m, P m ∧ w = f m) : ∃ ms : List β, (∀ m ∈ ms, P m) ∧ ws = ms.map f := by
  induction ws with
  | nil => exact ⟨[], by simp, rfl⟩
  | cons w ws ih =>
    obtain ⟨m, hm, rfl⟩ := h w (.head _)
    obtain ⟨ms, hms, rfl⟩ := ih fun w hw => h w (.tail _ hw)
    exact ⟨m :: ms, List.forall_mem_cons.mpr ⟨hm, hms⟩, rfl⟩

/-- `k{min,max}` for a class `k`: between `min` and `max` characters of `k`. -/
theorem Regex.matches_rep_cls_iff (k : CharClass) (min : Nat) (max : Option Nat) (u : List Char) :
    (Regex.rep (.cls k) min max).Matches u ↔
      min ≤ u.length ∧ (∀ m, max = some m → u.length ≤ m) ∧ ∀ c ∈ u, k.test c = true := by
  rw [Regex.matches_rep_iff]
  constructor
  · rintro ⟨ws, hmin, hmax, hws, rfl⟩
    obtain ⟨cs, hcs, rfl⟩ := exists_map_of_forall_mem fun w hw =>
      (Regex.matches_cls_iff _ _).mp (hws w hw) |>.imp fun _ h => h.symm
    have hflat : (cs.map ([·])).flatten = cs := List.flatMap_singleton' cs
    simp only [List.length_map] at hmin hmax
    rw [hflat]
    exact ⟨hmin, hmax, hcs⟩
  · rintro ⟨hmin, hmax, hk⟩
    refine ⟨u.map ([·]), by simpa using hmin, by simpa using hmax, fun w hw => ?_,
      (List.flatMap_singleton' u).symm⟩
    obtain ⟨c, hc, rfl⟩ := List.mem_map.mp hw
    exact .cls (hk c hc)

/-- Concatenation is associative. -/
theorem Regex.matches_seq_assoc (r q p : Regex) (u : List Char) :
    (Regex.seq r (.seq q p)).Matches u ↔ (Regex.seq (.seq r q) p).Matches u := by
  simp only [Regex.matches_seq_iff]
  constructor
  · rintro ⟨a, _, rfl, ha, b, c, rfl, hb, hc⟩
    exact ⟨a ++ b, c, by simp, ⟨a, b, rfl, ha, hb⟩, hc⟩
  · rintro ⟨_, c, rfl, ⟨a, b, rfl, ha, hb⟩, hc⟩
    exact ⟨a, b ++ c, by simp, ha, b, c, rfl, hb, hc⟩

/-- Labels joined by a separator: the first, then each other one behind the separator. -/
theorem intercalate_cons_eq {α : Type} (sep : α) (l : List α) (ls : List (List α)) :
    [sep].intercalate (l :: ls) = l ++ ls.flatMap (sep :: ·) := by
  induction ls generalizing l with
  | nil => simp [List.intercalate]
  | cons m ms ih =>
    rw [List.intercalate, List.intersperse_cons_cons, List.flatten_cons, List.flatten_cons,
      ← List.intercalate, ih]
    simp

/-! ### Classes -/

theorem char_le_iff (a b : Char) : a ≤ b ↔ a.toNat ≤ b.toNat := Iff.rfl

theorem char_eq_iff (a b : Char) : a = b ↔ a.toNat = b.toNat :=
  ⟨congrArg _, fun h => by rw [← Char.ofNat_toNat a, h, Char.ofNat_toNat]⟩

theorem CharClass.test_eq_true_iff (k : CharClass) (c : Char) :
    k.test c = true ↔ ∃ r ∈ k.ranges, r.1.toNat ≤ c.toNat ∧ c.toNat ≤ r.2.toNat := by
  simp [CharClass.test, char_le_iff]

theorem isAlpha_iff (c : Char) :
    c.isAlpha = true ↔ 65 ≤ c.toNat ∧ c.toNat ≤ 90 ∨ 97 ≤ c.toNat ∧ c.toNat ≤ 122 := by
  simp only [Char.isAlpha, Char.isUpper, Char.isLower, Bool.or_eq_true, Bool.and_eq_true,
    decide_eq_true_eq, ge_iff_le]
  rfl

theorem isAlphanum_iff (c : Char) :
    c.isAlphanum = true ↔ c.isAlpha = true ∨ 48 ≤ c.toNat ∧ c.toNat ≤ 57 := by
  simp only [Char.isAlphanum, Char.isDigit, Bool.or_eq_true, Bool.and_eq_true, decide_eq_true_eq,
    ge_iff_le]
  rfl

theorem alnum_test (c : Char) : alnum.test c = c.isAlphanum := by
  rw [Bool.eq_iff_iff, CharClass.test_eq_true_iff, isAlphanum_iff, isAlpha_iff]
  simp only [alnum, List.mem_cons, List.mem_singleton, List.not_mem_nil, or_false, exists_eq_or_imp,
    exists_eq_left, Char.reduceToNat]
  omega

theorem literal_test (d c : Char) : (literal d).test c = (c == d) := by
  rw [Bool.eq_iff_iff, CharClass.test_eq_true_iff, beq_iff_eq, char_eq_iff]
  simp only [literal, List.mem_singleton, exists_eq_left]
  omega

/-! ### Resource names -/

/-- The rule of the two resource-name messages, with `allowed` the characters a name may hold:
non-empty, every character allowed, the first and the last an ASCII letter or digit. -/
def nameRule (allowed : Char → Bool) (u : List Char) : Bool :=
  !u.isEmpty && u.all allowed && u.head?.all Char.isAlphanum && u.getLast?.all Char.isAlphanum

/-- A name under `nameRule` is one letter or digit, or a letter or digit, then allowed characters,
then a letter or digit. -/
theorem nameRule_eq_true_iff (allowed : Char → Bool)
    (halnum : ∀ c, c.isAlphanum = true → allowed c = true) (u : List Char) :
    nameRule allowed u = true ↔ ∃ x v, u = x :: v ∧ x.isAlphanum = true ∧
      (v = [] ∨ ∃ w y, v = w ++ [y] ∧ (∀ c ∈ w, allowed c = true) ∧ y.isAlphanum = true) := by
  constructor
  · intro h
    simp only [nameRule, Bool.and_eq_true, Bool.not_eq_true', List.isEmpty_eq_false,
      List.all_eq_true] at h
    obtain ⟨⟨⟨hne, hall⟩, hhead⟩, hlast⟩ := h
    obtain ⟨x, v, rfl⟩ := List.exists_cons_of_ne_nil hne
    refine ⟨x, v, rfl, by simpa using hhead, ?_⟩
    rcases List.eq_nil_or_concat v with rfl | ⟨w, y, rfl⟩
    · exact .inl rfl
    · rw [List.concat_eq_append, ← List.cons_append, List.getLast?_concat] at hlast
      exact .inr ⟨w, y, List.concat_eq_append .., fun c hc => hall c (by simp [hc]),
        by simpa using hlast⟩
  · rintro ⟨x, v, rfl, hx, rfl | ⟨w, y, rfl, hw, hy⟩⟩
    · simp [nameRule, hx, halnum x hx]
    · simp only [nameRule, Bool.and_eq_true, Bool.not_eq_true', List.isEmpty_eq_false,
        List.all_eq_true]
      refine ⟨⟨⟨List.cons_ne_nil _ _, ?_⟩, by simpa using hx⟩, ?_⟩
      · simp only [List.mem_cons, List.mem_append, List.mem_singleton, List.not_mem_nil, or_false]
        rintro c (rfl | hc | rfl)
        exacts [halnum _ hx, hw c hc, halnum _ hy]
      · rw [← List.cons_append, List.getLast?_concat]
        simpa using hy

/-- `([A-Za-z0-9][inner]*)?[A-Za-z0-9]`: one letter or digit, or a letter or digit, characters of
`inner`, then a letter or digit. -/
theorem matches_namePattern_iff (inner : CharClass) (u : List Char) :
    (Regex.seq (.opt (.seq (.cls alnum) (.rep (.cls inner) 0 none))) (.cls alnum)).Matches u ↔
      ∃ x v, u = x :: v ∧ alnum.test x = true ∧
        (v = [] ∨ ∃ w y, v = w ++ [y] ∧ (∀ c ∈ w, inner.test c = true) ∧ alnum.test y = true) := by
  simp only [Regex.matches_seq_iff, Regex.matches_opt_iff, Regex.matches_cls_iff,
    Regex.matches_rep_cls_iff]
  constructor
  · rintro ⟨a, _, rfl, rfl | ⟨_, w, rfl, ⟨x, rfl, hx⟩, -, -, hw⟩, y, rfl, hy⟩
    · exact ⟨y, [], rfl, hy, .inl rfl⟩
    · exact ⟨x, w ++ [y], rfl, hx, .inr ⟨w, y, rfl, hw, hy⟩⟩
  · rintro ⟨x, v, rfl, hx, rfl | ⟨w, y, rfl, hw, hy⟩⟩
    · exact ⟨[], [x], rfl, .inl rfl, x, rfl, hx⟩
    · exact ⟨x :: w, [y], rfl, .inr ⟨[x], w, rfl, ⟨x, rfl, hx⟩, by simp, by simp, hw⟩, y, rfl,
        hy⟩


/-- `MatchString` of `^([A-Za-z0-9][inner]*)?[A-Za-z0-9]$` is `nameRule`, when `inner` holds
exactly the allowed characters and these include the letters and digits. -/
theorem matchString_namePattern (inner : CharClass) (allowed : Char → Bool)
    (hinner : ∀ c, inner.test c = allowed c) (halnum : ∀ c, c.isAlphanum = true → allowed c = true)
    (r : String) :
    (Regex.seq (.opt (.seq (.cls alnum) (.rep (.cls inner) 0 none))) (.cls alnum)).matchString r =
      nameRule allowed r.toList := by
  refine Bool.eq_iff_iff.mpr ((Regex.matchString_iff _ (by rfl) r).trans ?_)
  rw [matches_namePattern_iff, nameRule_eq_true_iff allowed halnum]
  simp only [alnum_test, hinner]

/-- **The resource-name patterns are the messages' rules.**  A name is accepted exactly when it
is non-empty, its characters are ASCII letters, digits, '_' or '.' (for the RDMA shared device
plugin also '-'), and its first and last characters are letters or digits. -/
theorem resourceName_patterns_eq_nameRule (r : String) :
    isValidSriovNetworkDevicePluginResourceName r =
        nameRule (fun c => c.isAlphanum || c == '_' || c == '.') r.toList ∧
      isValidRdmaSharedDevicePluginResourceName r =
        nameRule (fun c => c.isAlphanum || c == '-' || c == '_' || c == '.') r.toList := by
  refine ⟨matchString_namePattern _ _ (fun c => ?_) (fun c h => by simp [h]) r,
    matchString_namePattern _ _ (fun c => ?_) (fun c h => by simp [h]) r⟩ <;>
  · rw [Bool.eq_iff_iff, CharClass.test_eq_true_iff]
    simp only [Bool.or_eq_true, beq_iff_eq, isAlphanum_iff, isAlpha_iff, char_eq_iff, List.mem_cons,
      List.mem_singleton, List.not_mem_nil, or_false, exists_eq_or_imp, exists_eq_left, Char.reduceToNat]
    omega

/-! ### Domain names -/

/-- A label of a domain name: 1 to 63 ASCII letters, digits or '-', the first and the last a
letter or digit. -/
def isDNSLabel (l : List Char) : Bool :=
  nameRule (fun c => c.isAlphanum || c == '-') l && l.length ≤ 63

/-- The first label of `fqdnRegex`, `[a-zA-Z0-9](?:[a-zA-Z0-9-]{0,61}[a-zA-Z0-9])?`, is a DNS
label. -/
theorem matches_firstLabel_iff (l : List Char) :
    (Regex.seq (.cls alnum) (.opt (.seq
      (.rep (.cls ⟨[('a', 'z'), ('A', 'Z'), ('0', '9'), ('-', '-')]⟩) 0 (some 61))
      (.cls alnum)))).Matches l ↔ isDNSLabel l = true := by
  have hclass : ∀ c, (⟨[('a', 'z'), ('A', 'Z'), ('0', '9'), ('-', '-')]⟩ : CharClass).test c =
      (c.isAlphanum || c == '-') := fun c => by
    rw [Bool.eq_iff_iff, CharClass.test_eq_true_iff]
    simp only [Bool.or_eq_true, beq_iff_eq, isAlphanum_iff, isAlpha_iff, char_eq_iff, List.mem_cons,
      List.mem_singleton, List.not_mem_nil, or_false, exists_eq_or_imp, exists_eq_left, Char.reduceToNat]
    omega
  rw [isDNSLabel, Bool.and_eq_true, nameRule_eq_true_iff _ (fun c h => by simp [h])]
  simp only [Regex.matches_seq_iff, Regex.matches_opt_iff, Regex.matches_cls_iff,
    Regex.matches_rep_cls_iff, alnum_test, hclass, decide_eq_true_eq]
  constructor
  · rintro ⟨_, v, rfl, ⟨x, rfl, hx⟩, rfl | ⟨w, _, rfl, ⟨-, hlen, hw⟩, y, rfl, hy⟩⟩
    · exact ⟨⟨x, [], rfl, hx, .inl rfl⟩, by simp⟩
    · exact ⟨⟨x, w ++ [y], rfl, hx, .inr ⟨w, y, rfl, hw, hy⟩⟩, by simpa using hlen 61 rfl⟩
  · rintro ⟨⟨x, v, rfl, hx, rfl | ⟨w, y, rfl, hw, hy⟩⟩, hlen⟩
    · exact ⟨[x], [], rfl, ⟨x, rfl, hx⟩, .inl rfl⟩
    · refine ⟨[x], w ++ [y], rfl, ⟨x, rfl, hx⟩,
        .inr ⟨w, [y], rfl, ⟨by simp, fun m hm => ?_, hw⟩, y, rfl, hy⟩⟩
      cases hm
      simp at hlen
      omega

/-- `(?:\.r){min,}`: `min` pieces or more, each after a dot, each matched by `r`. -/
theorem matches_dotted_iff (r : Regex) (min : Nat) (u : List Char) :
    (Regex.rep (.seq (.cls (literal '.')) r) min none).Matches u ↔
      ∃ ls : List (List Char), min ≤ ls.length ∧ (∀ l ∈ ls, r.Matches l) ∧ u = ls.flatMap ('.' :: ·) := by
  rw [Regex.matches_rep_iff]
  constructor
  · rintro ⟨ws, hmin, -, hws, rfl⟩
    obtain ⟨ls, hls, rfl⟩ := exists_map_of_forall_mem (f := ('.' :: ·)) (P := r.Matches) fun w hw => by
      obtain ⟨_, l, rfl, hdot, hl⟩ := (Regex.matches_seq_iff _ _ _).mp (hws w hw)
      obtain ⟨d, rfl, hd⟩ := (Regex.matches_cls_iff _ _).mp hdot
      rw [literal_test, beq_iff_eq] at hd
      exact ⟨l, hl, by rw [hd]; rfl⟩
    exact ⟨ls, by simpa using hmin, hls, rfl⟩
  · rintro ⟨ls, hmin, hls, rfl⟩
    refine ⟨ls.map ('.' :: ·), by simpa using hmin, by simp, fun w hw => ?_, rfl⟩
    obtain ⟨l, hl, rfl⟩ := List.mem_map.mp hw
    exact .seq (.cls (by decide)) (hls l hl)

/-- **The prefix pattern, in words.**  `isValidFQDN` accepts exactly the names whose first label
is a DNS label and which have one label more at least, each of two ASCII letters or more. -/
theorem isValidFQDN_iff (p : String) :
    isValidFQDN p = true ↔ ∃ first rest, p.toList = ['.'].intercalate (first :: rest) ∧
      isDNSLabel first = true ∧ rest ≠ [] ∧ ∀ l ∈ rest, 2 ≤ l.length ∧ l.all Char.isAlpha = true := by
  have hclass : ∀ c, (⟨[('a', 'z'), ('A', 'Z')]⟩ : CharClass).test c = c.isAlpha := fun c => by
    rw [Bool.eq_iff_iff, CharClass.test_eq_true_iff, isAlpha_iff]
    simp only [List.mem_cons, List.mem_singleton, List.not_mem_nil, or_false, exists_eq_or_imp,
      exists_eq_left, Char.reduceToNat]
    omega
  rw [isValidFQDN, Regex.matchString_iff _ fqdnRegexp_wf, fqdnRegexp, Regex.matches_seq_assoc,
    Regex.matches_seq_iff]
  simp only [matches_firstLabel_iff, matches_dotted_iff, Regex.matches_rep_cls_iff, hclass,
    intercalate_cons_eq, List.all_eq_true, reduceCtorEq, false_implies, implies_true, true_and,
    Nat.one_le_iff_ne_zero, ne_eq, List.length_eq_zero]
  constructor
  · rintro ⟨first, _, h, hfirst, rest, hne, hrest, rfl⟩
    exact ⟨first, rest, h, hfirst, hne, hrest⟩
  · rintro ⟨first, rest, h, hfirst, hne, hrest⟩
    exact ⟨first, _, h, hfirst, rest, hne, hrest, rfl⟩

/-- A fully qualified domain name, as the message "it must be a valid FQDN" promises: two labels
or more, separated by dots, each a DNS label, the last alphabetic, and 253 characters at most. -/
def isFQDN (p : String) : Bool :=
  let labels := p.toList.splitOn '.'
  2 ≤ labels.length && labels.all isDNSLabel && (labels.getLast?.all fun l => l.all Char.isAlpha) &&
    p.length ≤ 253

/-- `isValidFQDN` is not the FQDN check its message names: it rejects `rdma.k8s.io`, whose second
label has a digit, and accepts `a.` followed by a label of 64 letters. -/
theorem isValidFQDN_ne_isFQDN :
    (isFQDN "rdma.k8s.io" = true ∧ isValidFQDN "rdma.k8s.io" = false) ∧
      (isFQDN ("a." ++ ⟨List.replicate 64 'b'⟩) = false ∧
        isValidFQDN ("a." ++ ⟨List.replicate 64 'b'⟩) = true) := by
  refine ⟨⟨by decide, by decide⟩, by decide, (isValidFQDN_iff _).mpr
    ⟨['a'], [List.replicate 64 'b'], rfl, by decide, by simp, by decide⟩⟩

/-! ### OFED versions -/

theorem digit_test (c : Char) : digit.test c = c.isDigit := by
  rw [Bool.eq_iff_iff, CharClass.test_eq_true_iff]
  simp only [digit, Char.isDigit, List.mem_singleton, exists_eq_left, Bool.and_eq_true,
    decide_eq_true_eq, Char.reduceToNat]
  rfl

/-- A number of a version: one ASCII digit or more. -/
def isNumber (n : List Char) : Bool := !n.isEmpty && n.all Char.isDigit

/-- Go's `\d+` matches the numbers. -/
theorem matches_digits_iff (n : List Char) :
    (Regex.rep (.cls digit) 1 none).Matches n ↔ isNumber n = true := by
  simp only [Regex.matches_rep_cls_iff, digit_test, isNumber, Bool.and_eq_true, Bool.not_eq_true',
    List.isEmpty_eq_false, List.all_eq_true, reduceCtorEq, false_implies, implies_true, true_and,
    Nat.one_le_iff_ne_zero, ne_eq, List.length_eq_zero]

/-- **The OFED version pattern, in words.**  `isValidOFEDVersion` accepts exactly the versions
made of three numbers or more: the first two joined by a dot, the third after a dash, and each
further one after a dot. -/
theorem isValidOFEDVersion_iff (version : String) :
    isValidOFEDVersion version = true ↔ ∃ major minor build rest,
      version.toList = major ++ '.' :: minor ++ '-' :: ['.'].intercalate (build :: rest) ∧
      ∀ n ∈ major :: minor :: build :: rest, isNumber n = true := by
  rw [isValidOFEDVersion, Regex.matchString_iff _ versionRegexp_wf, versionRegexp]
  simp only [Regex.matches_seq_iff, Regex.matches_cls_iff, literal_test, beq_iff_eq, matches_digits_iff,
    matches_dotted_iff, Nat.zero_le, true_and, intercalate_cons_eq, List.forall_mem_cons]
  constructor
  · rintro ⟨major, _, h, hmajor, _, _, rfl, ⟨_, rfl, rfl⟩, minor, _, rfl, hminor, _, _, rfl,
      ⟨_, rfl, rfl⟩, build, _, rfl, hbuild, rest, hrest, rfl⟩
    exact ⟨major, minor, build, rest, by rw [h]; simp, hmajor, hminor, hbuild, hrest⟩
  · rintro ⟨major, minor, build, rest, h, hmajor, hminor, hbuild, hrest⟩
    exact ⟨major, _, by simpa using h, hmajor, ['.'], _, rfl, ⟨_, rfl, rfl⟩, minor, _, rfl, hminor,
      ['-'], _, rfl, ⟨_, rfl, rfl⟩, build, _, rfl, hbuild, rest, hrest, rfl⟩

example : isValidOFEDVersion "24.04-0.6.6.0" = true ∧ isValidOFEDVersion "latest" = false ∧
    isValidOFEDVersion "24.04" = false := by decide

end NetworkOperator.Validator
