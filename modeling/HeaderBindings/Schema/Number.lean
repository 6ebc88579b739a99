import HeaderBindings.Schema.Reader

/-!
# Numbers in JSON text

No schema holds a number, but a number may stand where something else is asked
for.  It is then read to its end, and it must not be too large for a binary
floating-point number of 64 bits.  A number in a field that is not asked for only
has to be well formed.
-/

namespace HeaderBindings
namespace Reader

section Digits

/-- Whether a character is a decimal digit. -/
def isDecimal (c : Char) : Bool := '0' ≤ c && c ≤ '9'

/-- The number that decimal digits stand for. -/
def decimalValue (digits : List Char) : Nat :=
  digits.foldl (fun value c => 10 * value + (c.toNat - '0'.toNat)) 0

/-- A number as written: the digits before and after the point, and the exponent. -/
structure Numeral where
  whole : List Char
  fraction : List Char
  exponent : Int

/-- The decimal digits at the front of a text, and what follows them. -/
def digits (text : List Char) : List Char × List Char :=
  (text.takeWhile isDecimal, text.dropWhile isDecimal)

end Digits

section Range

/-- The least value that rounds to no finite number. -/
def rangeLimit : Nat := Nat.pow 2 1024 - Nat.pow 2 970

/-- Whether a number is too large.  The number of its digits decides but for a narrow band. -/
def Numeral.isTooLarge (numeral : Numeral) : Bool :=
  let mantissa := decimalValue (numeral.whole ++ numeral.fraction)
  let shift := numeral.exponent - numeral.fraction.length
  let size := (Nat.toDigits 10 mantissa).length + shift
  if mantissa = 0 then false
  else if size < 308 then false
  else if size > 310 then true
  else rangeLimit * Nat.pow 10 (-shift).toNat ≤ mantissa * Nat.pow 10 shift.toNat

end Range

section Reading

/-- The fault of text that breaks off inside a number: where only the end of the text is in the
way, `early` is reported. -/
def brokenOff (early : ReadFault) : List Char → ReadFault
  | [] => early
  | _ :: _ => .malformed

/-- The exponent of a number after its letter. -/
def exponentPart (early : ReadFault) (text : List Char) : Except ReadFault (Int × List Char) :=
  let (negative, text) :=
    match text with
    | '+' :: rest => (false, rest)
    | '-' :: rest => (true, rest)
    | _ => (false, text)
  match digits text with
  | ([], rest) => .error (brokenOff early rest)
  | (value, rest) =>
      .ok (if negative then -(decimalValue value : Int) else decimalValue value, rest)

/-- The exponent of a number, if it has one. -/
def exponent (early : ReadFault) (text : List Char) : Except ReadFault (Int × List Char) :=
  match text with
  | 'e' :: rest | 'E' :: rest => exponentPart early rest
  | _ => .ok (0, text)

/-- A number after its sign.  `early` is the fault of a text that ends inside it. -/
def numeral (early : ReadFault) (text : List Char) : Except ReadFault (Numeral × List Char) :=
  match digits text with
  | ([], rest) => .error (brokenOff early rest)
  | ('0' :: _ :: _, _) => .error .malformed
  | (whole, '.' :: rest) =>
      match digits rest with
      | ([], rest) => .error (brokenOff early rest)
      | (fraction, rest) =>
          (exponent early rest).map fun (power, rest) => (⟨whole, fraction, power⟩, rest)
  | (whole, rest) => (exponent early rest).map fun (power, rest) => (⟨whole, [], power⟩, rest)

theorem digits_eq {text value rest : List Char} (h : digits text = (value, rest)) :
    text = value ++ rest := by
  obtain ⟨rfl, rfl⟩ := Prod.mk.inj h
  exact List.takeWhile_append_dropWhile.symm

theorem exponentPart_le {early : ReadFault} {text rest : List Char} {power : Int}
    (h : exponentPart early text = .ok (power, rest)) : rest.length ≤ text.length := by
  unfold exponentPart at h
  split at h
  next negative text' hs =>
    have hle : text'.length ≤ text.length := by
      split at hs <;> simp only [Prod.mk.injEq] at hs <;> obtain ⟨_, rfl⟩ := hs <;> simp
    split at h
    · simp at h
    · next value left _ hd =>
        obtain ⟨_, rfl⟩ := Prod.mk.inj (Except.ok.inj h)
        have := congrArg List.length (digits_eq hd)
        simp only [List.length_append] at this
        omega

theorem exponent_le {early : ReadFault} {text rest : List Char} {power : Int}
    (h : exponent early text = .ok (power, rest)) : rest.length ≤ text.length := by
  unfold exponent at h
  split at h
  · exact Nat.le_succ_of_le (exponentPart_le h)
  · exact Nat.le_succ_of_le (exponentPart_le h)
  · obtain ⟨_, rfl⟩ := Prod.mk.inj (Except.ok.inj h)
    exact Nat.le_refl _

theorem numeral_lt {early : ReadFault} {text rest : List Char} {value : Numeral}
    (h : numeral early text = .ok (value, rest)) : rest.length < text.length := by
  unfold numeral at h
  split at h
  · simp at h
  · simp at h
  · next whole left hne _ hd =>
      have hw : 0 < whole.length := by
        cases whole with
        | nil => exact (hne rfl).elim
        | cons => simp
      have hlen := congrArg List.length (digits_eq hd)
      simp only [List.length_append, List.length_cons] at hlen
      split at h
      · simp at h
      · next fraction after _ hf =>
          cases he : exponent early after with
          | error fault => simp [he, Except.map] at h
          | ok result =>
              simp only [he, Except.map, Except.ok.injEq, Prod.mk.injEq] at h
              obtain ⟨_, rfl⟩ := h
              have h1 := exponent_le he
              have h2 := congrArg List.length (digits_eq hf)
              simp only [List.length_append] at h2
              omega
  · next whole left hne _ _ hd =>
      have hw : 0 < whole.length := by
        cases whole with
        | nil => exact (hne rfl).elim
        | cons => simp
      have hlen := congrArg List.length (digits_eq hd)
      simp only [List.length_append] at hlen
      cases he : exponent early left with
      | error fault => simp [he, Except.map] at h
      | ok result =>
          simp only [he, Except.map, Except.ok.injEq, Prod.mk.injEq] at h
          obtain ⟨_, rfl⟩ := h
          have h1 := exponent_le he
          omega

end Reading

end Reader
end HeaderBindings
