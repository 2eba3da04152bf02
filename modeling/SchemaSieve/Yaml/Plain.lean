import SchemaSieve.Text.Decimal

/-!
# Plain scalars

What an unquoted scalar stands for: nothing, a truth value, a number or a text. Digits behind a
leading zero are text, and so is a number too large to be finite.
-/

namespace SchemaSieve.Yaml

/-- What a plain scalar stands for. -/
inductive Plain where
  | null
  | bool (b : Bool)
  | int (n : Int)
  | float (x : Float)
  | text

namespace Plain

def isNull (s : String) : Bool := s == "null" || s == "Null" || s == "NULL" || s == "~"

def bool? : String → Option Bool
  | "true" | "True" | "TRUE" => some true
  | "false" | "False" | "FALSE" => some false
  | _ => none

/-- The value of a digit in a base up to sixteen. -/
def digit? (base : Nat) (c : Char) : Option Nat :=
  let n :=
    if c.isDigit then c.toNat - 48
    else if 'a' ≤ c ∧ c ≤ 'f' then c.toNat - 87
    else if 'A' ≤ c ∧ c ≤ 'F' then c.toNat - 55
    else base
  if n < base then some n else none

/-- The number that digits write in a base; there has to be a digit. -/
def natural? (base : Nat) (cs : List Char) : Option Nat :=
  if cs.isEmpty then none
  else cs.foldlM (fun n c => (digit? base c).map (n * base + ·)) 0

/-- Digits with a zero in front, with a sign or without, are no number. -/
def isPaddedDigits (cs : List Char) : Bool :=
  let body := match cs with
    | '-' :: r | '+' :: r => r
    | r => r
  body.length > 1 && body.head? == some '0' && body.all Char.isDigit

/-- The number behind the mark of a base. -/
def based? : List Char → Option Nat
  | '0' :: 'x' :: r => natural? 16 r
  | '0' :: 'o' :: r => natural? 8 r
  | '0' :: 'b' :: r => natural? 2 r
  | _ => none

/-- A whole number that fits into 128 bits; one without a minus sign counts as unsigned. -/
def int? (cs : List Char) : Option Int :=
  match cs with
  | '-' :: r =>
    (based? r <|> if isPaddedDigits cs then none else natural? 10 r).bind fun n =>
      if n ≤ Nat.pow 2 127 then some (-(n : Int)) else none
  | _ =>
    let r := match cs with
      | '+' :: r => r
      | r => r
    (based? r <|> if isPaddedDigits cs then none else natural? 10 r).bind fun n =>
      if n < Nat.pow 2 128 then some (n : Int) else none

/-- Whether a number fits in a word of 64 bits, with a sign if it is negative. -/
def fitsWord (n : Int) : Bool := -0x8000000000000000 ≤ n && n < 0x10000000000000000

/-- The digits before and after a point; the point may be missing, a digit may not. -/
def mantissa? (cs : List Char) : Option (List Char × List Char) :=
  let whole := cs.takeWhile Char.isDigit
  match cs.dropWhile Char.isDigit with
  | [] => if whole.isEmpty then none else some (whole, [])
  | '.' :: r => if r.all Char.isDigit && !(whole.isEmpty && r.isEmpty) then some (whole, r) else none
  | _ => none

/-- An exponent with its sign. -/
def exponent? : List Char → Option Int
  | '-' :: r => (natural? 10 r).map fun n => -(n : Int)
  | '+' :: r => (natural? 10 r).map Int.ofNat
  | r => (natural? 10 r).map Int.ofNat

/-- A decimal without a sign. -/
def decimal? (cs : List Char) : Option Float := do
  let isMark (c : Char) : Bool := c == 'e' || c == 'E'
  let (whole, fraction) ← mantissa? (cs.takeWhile fun c => !isMark c)
  let e ← match cs.dropWhile fun c => !isMark c with
    | [] => some 0
    | _ :: r => exponent? r
  let m ← natural? 10 (whole ++ fraction)
  return Text.Decimal.nearest m (e - fraction.length)

/-- A number with a fraction or an exponent, or one of the special ones. -/
def float? (s : String) : Option Float :=
  let finite (x : Float) : Option Float := if x.isInf then none else some x
  let infinite : Float := Float.ofBits 0x7FF0000000000000
  match s with
  | ".inf" | ".Inf" | ".INF" | "+.inf" | "+.Inf" | "+.INF" => some infinite
  | "-.inf" | "-.Inf" | "-.INF" => some (-infinite)
  | ".nan" | ".NaN" | ".NAN" => some (Float.ofBits 0x7FF8000000000000)
  | _ =>
    match s.toList with
    | '-' :: r => (decimal? r).bind fun x => finite (-x)
    | '+' :: r => (decimal? r).bind finite
    | r => (decimal? r).bind finite

/-- What an unquoted scalar stands for. -/
def of (s : String) : Plain :=
  if s.isEmpty || isNull s then null
  else
    match bool? s with
    | some b => bool b
    | none =>
      match int? s.toList with
      | some n => int n
      | none =>
        if isPaddedDigits s.toList then text else (float? s).elim text float

end Plain

end SchemaSieve.Yaml
