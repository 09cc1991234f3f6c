import Ssh1.Lib.QuotedText

/-
  Patterns with wildcards for host names and addresses.

  Texts are C strings: the characters before the first zero
  byte. A character of a text is one byte.

  Main declarations:
    * `matchPattern`
    * `matchHost`
    * `matchHostname`
-/

------------------------------------------------------------
-- Wildcards
------------------------------------------------------------

namespace Ssh1

open QuotedText (Text)

/-
  Whether the string matches the pattern, which may contain
  the wildcards `?` and `*`.
-/
def matchPattern : (s pattern : Text) → Bool
| s, [] => s.isEmpty
| s, c :: pattern =>
    if c = '*' then
      match pattern with
      | [] => true
      | d :: rest =>
          if d ≠ '?' ∧ d ≠ '*' then
            -- starts from the instances of the next character
            s.tails.any fun tail =>
              match tail with
              | [] => false
              | x :: tail => x = d && matchPattern tail rest
          else
            s.tails.any fun tail =>
              match tail with
              | [] => false
              | x :: tail =>
                  matchPattern (x :: tail) (d :: rest)
    else
      match s with
      | [] => false
      | x :: s => (c = '?' || c = x) && matchPattern s pattern

/- A pattern without letters is one for an address. -/
def isIpPattern (pattern : Text) : Bool :=
  pattern.all fun c =>
    c.isDigit || c = '.' || c = '?' || c = '*'

/- Matches the address if it is known, or the host name. -/
def matchHost
    (host : Text)
    (ip : Option Text)
    (pattern : Text) : Bool :=
  match ip with
  | some ip =>
      if isIpPattern pattern then
        matchPattern ip pattern
      else
        matchPattern host pattern
  | none => matchPattern host pattern

end Ssh1

------------------------------------------------------------
-- Pattern Lists
------------------------------------------------------------

namespace Ssh1

open QuotedText (Text)

/- `sizeof(sub) - 1` -/
def maxSubpattern : Nat := 1023

/-
  The loop over the subpatterns, for `fuel` turns. Every
  turn takes at least one character.
-/
def matchSubpatterns
    (host : Text)
    (ip : Option Text) :
    (fuel : Nat) → (pattern : Text) → (gotPositive : Bool) →
    Bool
| 0, _, gotPositive => gotPositive
| _ + 1, [], gotPositive => gotPositive
| fuel + 1, c :: pattern, gotPositive =>
    let negated := c = '!'
    let pattern := if negated then pattern else c :: pattern
    let sub :=
      (pattern.take maxSubpattern).takeWhile (· ≠ ',')
    if sub.length ≥ maxSubpattern then
      false
    else
      let rest :=
        match pattern.drop sub.length with
        | d :: rest => if d = ',' then rest else d :: rest
        | [] => []
      if matchHost host ip (sub.map Char.toLower) then
        if negated then
          false
        else
          matchSubpatterns host ip fuel rest true
      else
        matchSubpatterns host ip fuel rest gotPositive

/-
  Whether some subpattern matches the host and no negated
  one does.
-/
def matchHostname
    (host : Text)
    (ip : Option Text)
    (pattern : Text) : Bool :=
  matchSubpatterns host ip pattern.length pattern false

/- A negated subpattern wins wherever it stands. -/
example :
    matchHostname "a.fi".toList none
        "*.fi,!a.*".toList = false ∧
      matchHostname "b.fi".toList (some "10.0.0.1".toList)
        "!a.*,10.?.*".toList = true := by
  decide +kernel

end Ssh1
