import NetworkOperator.Validator.Field

/-!
# Validator — the patterns the validator matches

The validator compiles five RE2 patterns with `regexp.MustCompile` and calls `MatchString`.
Each pattern is anchored by `^` and `$` (no multi-line flag), so it matches when the whole
string is in the pattern's language.  `Regex` is the syntax the five patterns use: character
classes, concatenation, `?`, and counted repetition (`*` is `{0,}`, `+` is `{1,}`).  A pattern
matches a string when `Regex.rest`, the suffixes left after the pattern matches a prefix,
contains the empty one.

An unbounded repetition counts only iterations that consume something: one that matches the
empty string leaves the suffix as it was, so leaving it out changes no match, and with it out
the number of iterations is bounded by the length of the string.
-/

namespace NetworkOperator.Validator

/-- A character class `[...]`, by its ranges. -/
structure CharClass where
  ranges : List (Char × Char)

/-- A character is in the class. -/
def CharClass.test (cls : CharClass) (c : Char) : Bool :=
  cls.ranges.any fun r => r.1 ≤ c && c ≤ r.2

/-- The syntax of the validator's patterns. -/
inductive Regex where
  | cls (cls : CharClass)
  | seq (r q : Regex)
  | opt (r : Regex)
  | rep (r : Regex) (min : Nat) (max : Option Nat)

/-- `r{n}`: `n` matches of `r` in a row, `r` given by its suffix function. -/
def repExact (f : List Char → List (List Char)) : Nat → List Char → List (List Char)
  | 0, s => [s]
  | n + 1, s => (f s).flatMap (repExact f n)

/-- `r{0,n}`. -/
def repUpTo (f : List Char → List (List Char)) : Nat → List Char → List (List Char)
  | 0, s => [s]
  | n + 1, s => s :: (f s).flatMap (repUpTo f n)

/-- `r*`, at most `fuel` iterations, each consuming something. -/
def repStar (f : List Char → List (List Char)) : Nat → List Char → List (List Char)
  | 0, s => [s]
  | fuel + 1, s => s :: ((f s).filter (·.length < s.length)).flatMap (repStar f fuel)

/-- The suffixes of `s` left after `r` matches a prefix of it. -/
def Regex.rest : Regex → List Char → List (List Char)
  | .cls k, c :: s => if k.test c then [s] else []
  | .cls _, [] => []
  | .seq r q, s => (r.rest s).flatMap fun t => q.rest t
  | .opt r, s => s :: r.rest s
  | .rep r min max, s =>
    (repExact (fun t => r.rest t) min s).flatMap fun t =>
      match max with
      | some max => repUpTo (fun t => r.rest t) (max - min) t
      | none => repStar (fun t => r.rest t) t.length t

/-- `MatchString` of the pattern `^r$`. -/
def Regex.matchString (r : Regex) (s : String) : Bool := (r.rest s.toList).contains []

/-! ### The patterns -/

/-- `[a-zA-Z0-9]`. -/
def alnum : CharClass := ⟨[('a', 'z'), ('A', 'Z'), ('0', '9')]⟩

/-- `[0-9]`, Go's `\d`. -/
def digit : CharClass := ⟨[('0', '9')]⟩

/-- The one-character class of `c`. -/
def literal (c : Char) : CharClass := ⟨[(c, c)]⟩

/-- The constant `fqdnRegex`. -/
def fqdnRegex : String := "^[a-zA-Z0-9](?:[a-zA-Z0-9-]\x7b0,61\x7d[a-zA-Z0-9])?(?:\\.[a-zA-Z]\x7b2,\x7d)+$"

/-- The constant `sriovResourceNameRegex`. -/
def sriovResourceNameRegex : String := "^([A-Za-z0-9][A-Za-z0-9_.]*)?[A-Za-z0-9]$"

/-- The constant `rdmaResourceNameRegex`. -/
def rdmaResourceNameRegex : String := "^([A-Za-z0-9][-A-Za-z0-9_.]*)?[A-Za-z0-9]$"

/-- `regexp.MustCompile(fqdnRegex)`. -/
def fqdnRegexp : Regex :=
  .seq (.cls alnum)
    (.seq (.opt (.seq (.rep (.cls ⟨[('a', 'z'), ('A', 'Z'), ('0', '9'), ('-', '-')]⟩) 0 (some 61))
        (.cls alnum)))
      (.rep (.seq (.cls (literal '.')) (.rep (.cls ⟨[('a', 'z'), ('A', 'Z')]⟩) 2 none)) 1 none))

/-- `regexp.MustCompile(sriovResourceNameRegex)`. -/
def sriovResourceNameRegexp : Regex :=
  .seq (.opt (.seq (.cls alnum) (.rep (.cls ⟨[('A', 'Z'), ('a', 'z'), ('0', '9'), ('_', '_'), ('.', '.')]⟩)
      0 none)))
    (.cls alnum)

/-- `regexp.MustCompile(rdmaResourceNameRegex)`. -/
def rdmaResourceNameRegexp : Regex :=
  .seq (.opt (.seq (.cls alnum)
      (.rep (.cls ⟨[('-', '-'), ('A', 'Z'), ('a', 'z'), ('0', '9'), ('_', '_'), ('.', '.')]⟩) 0 none)))
    (.cls alnum)

/-- `regexp.MustCompile(PKeyGUIDPattern)`, the pattern `^([0-9A-Fa-f]{2}:){7}([0-9A-Fa-f]{2})$`. -/
def pKeyGUIDRegexp : Regex :=
  let hex : Regex := .cls ⟨[('0', '9'), ('A', 'F'), ('a', 'f')]⟩
  .seq (.rep (.seq (.rep hex 2 (some 2)) (.cls (literal ':'))) 7 (some 7)) (.rep hex 2 (some 2))

/-- `regexp.MustCompile(versionPattern)`, the pattern `^(\d+\.\d+-\d+(\.\d+)*)$`. -/
def versionRegexp : Regex :=
  let digits : Regex := .rep (.cls digit) 1 none
  .seq digits (.seq (.cls (literal '.')) (.seq digits (.seq (.cls (literal '-')) (.seq digits
    (.rep (.seq (.cls (literal '.')) digits) 0 none)))))

/-- `isValidFQDN`. -/
def isValidFQDN (input : String) : Bool := fqdnRegexp.matchString input

/-- `isValidSriovNetworkDevicePluginResourceName`. -/
def isValidSriovNetworkDevicePluginResourceName (resourceName : String) : Bool :=
  sriovResourceNameRegexp.matchString resourceName

/-- `isValidRdmaSharedDevicePluginResourceName`. -/
def isValidRdmaSharedDevicePluginResourceName (resourceName : String) : Bool :=
  rdmaResourceNameRegexp.matchString resourceName

/-- `isValidPKeyGUID`. -/
def isValidPKeyGUID (guid : String) : Bool := pKeyGUIDRegexp.matchString guid

/-- `isValidOFEDVersion`. -/
def isValidOFEDVersion (version : String) : Bool := versionRegexp.matchString version

end NetworkOperator.Validator
