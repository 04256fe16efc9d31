/-!
# Decimal digits

A decimal digit is one of the 660 characters that Unicode 14 lists as such, in 66 runs from zero to
nine, one or more for each script that has digits of its own. A numeral may be spelled with any of them;
the plain digits are the first run.
-/

namespace Primer.Text

/-- The code point of the zero of each run, in ascending order. -/
def digitZeros : List Nat :=
  [0x30, 0x660, 0x6F0, 0x7C0, 0x966, 0x9E6, 0xA66, 0xAE6, 0xB66, 0xBE6, 0xC66, 0xCE6, 0xD66, 0xDE6,
   0xE50, 0xED0, 0xF20, 0x1040, 0x1090, 0x17E0, 0x1810, 0x1946, 0x19D0, 0x1A80, 0x1A90, 0x1B50,
   0x1BB0, 0x1C40, 0x1C50, 0xA620, 0xA8D0, 0xA900, 0xA9D0, 0xA9F0, 0xAA50, 0xABF0, 0xFF10, 0x104A0,
   0x10D30, 0x11066, 0x110F0, 0x11136, 0x111D0, 0x112F0, 0x11450, 0x114D0, 0x11650, 0x116C0, 0x11730,
   0x118E0, 0x11950, 0x11C50, 0x11D50, 0x11DA0, 0x16A60, 0x16AC0, 0x16B50, 0x1D7CE, 0x1D7D8, 0x1D7E2,
   0x1D7EC, 0x1D7F6, 0x1E140, 0x1E2F0, 0x1E950, 0x1FBF0]

/-- The value of a decimal digit. -/
def digitValue? (c : Char) : Option Nat :=
  (digitZeros.find? fun start => start ≤ c.toNat && c.toNat < start + 10).map (c.toNat - ·)

/-- Whether a character is a decimal digit of some script. -/
def isDecimalDigit (c : Char) : Bool :=
  (digitValue? c).isSome

/-- The plain digit of the same value, for a decimal digit; any other character is left as it is. -/
def plainDigit (c : Char) : Char :=
  match digitValue? c with
  | some d => Char.ofNat (0x30 + d)
  | none => c

/-- Characters in front of the second run are left as they are. -/
theorem plainDigit_of_lt {c : Char} (early : c.toNat < 0x660) : plainDigit c = c := by
  simp only [plainDigit, digitValue?]
  cases found : digitZeros.find? fun start => start ≤ c.toNat && c.toNat < start + 10 with
  | none => rfl
  | some start =>
    have within := List.find?_some found
    simp only [Bool.and_eq_true, decide_eq_true_eq] at within
    have first : ∀ z ∈ digitZeros, z = 0x30 ∨ 0x660 ≤ z := by decide
    have plain : start = 0x30 := by
      rcases first start (List.mem_of_find?_eq_some found) with same | later <;> omega
    subst plain
    simp only [Option.map_some, show 0x30 + (c.toNat - 0x30) = c.toNat by omega, Char.ofNat_toNat]

end Primer.Text
