namespace Latchkey.Word

/-- Numbers without a sign lie below this. -/
def unsignedEnd : Nat := 18446744073709551616

/-- Numbers with a sign lie below this, and not below its negative. -/
def signedEnd : Nat := 9223372036854775808

end Latchkey.Word
