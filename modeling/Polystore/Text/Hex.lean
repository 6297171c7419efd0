/-
**Hexadecimal digits, of numbers with a fixed count of digits and of bytes.**

* `Hex.digits` writes a number with the wanted count of lower-case digits;
* `Hex.number?` reads digits of either case;
* `Hex.ofBytes` and `Hex.bytes?` write and read bytes, two digits each.
-/

namespace Polystore.Hex

/-- The lower-case digit of a number below sixteen. -/
def digit (number : Nat) : Char :=
  if number < 10 then Char.ofNat (48 + number) else Char.ofNat (87 + number)

/-- The value of a digit of either case. -/
def value? (character : Char) : Option Nat :=
  let code := character.toNat
  if 48 ≤ code ∧ code ≤ 57 then some (code - 48)
  else if 97 ≤ code ∧ code ≤ 102 then some (code - 87)
  else if 65 ≤ code ∧ code ≤ 70 then some (code - 55)
  else none

/-- The last `count` digits of a number, the most significant one first. -/
def digits : Nat → Nat → List Char
  | 0, _ => []
  | count + 1, number => digits count (number / 16) ++ [digit (number % 16)]

/-- The number written by a list of digits, read on top of what was read before. -/
def numberFrom? : Nat → List Char → Option Nat
  | read, [] => some read
  | read, head :: rest =>
    match value? head with
    | some value => numberFrom? (16 * read + value) rest
    | none => none

/-- The number written by a list of digits. -/
def number? (text : List Char) : Option Nat := numberFrom? 0 text

/-- The two digits of every byte. -/
def ofBytes (bytes : List UInt8) : List Char :=
  bytes.flatMap fun byte => digits 2 byte.toNat

/-- The bytes written by pairs of digits. -/
def bytes? : List Char → Option (List UInt8)
  | [] => some []
  | [_] => none
  | high :: low :: rest => do
    let upper ← value? high
    let lower ← value? low
    let others ← bytes? rest
    return UInt8.ofNat (16 * upper + lower) :: others

/-- A number is written with exactly the wanted count of digits. -/
theorem length_digits (count number : Nat) : (digits count number).length = count := by
  induction count generalizing number with
  | zero => rfl
  | succ count hypothesis => simp [digits, hypothesis]

/-- A digit reads back. -/
theorem value?_digit {number : Nat} (small : number < 16) : value? (digit number) = some number := by
  have all : ∀ candidate : Fin 16, value? (digit candidate) = some candidate.val := by decide
  exact all ⟨number, small⟩

theorem numberFrom?_append (read : Nat) (first second : List Char) :
    numberFrom? read (first ++ second) =
      (numberFrom? read first).bind fun middle => numberFrom? middle second := by
  induction first generalizing read with
  | nil => rfl
  | cons head rest hypothesis =>
    simp only [List.cons_append, numberFrom?]
    split
    · exact hypothesis _
    · rfl

/-- Written digits read back to the number they were taken from. -/
theorem number?_digits (count number : Nat) :
    number? (digits count number) = some (number % Nat.pow 16 count) := by
  suffices general : ∀ read, numberFrom? read (digits count number) =
      some (read * Nat.pow 16 count + number % Nat.pow 16 count) by
    simpa only [number?, Nat.zero_mul, Nat.zero_add] using general 0
  induction count generalizing number with
  | zero =>
    intro read
    have one : Nat.pow 16 0 = 1 := rfl
    simp only [digits, numberFrom?, one, Nat.mod_one, Nat.mul_one, Nat.add_zero]
  | succ count hypothesis =>
    intro read
    have below : number % 16 < 16 := Nat.mod_lt _ (by decide)
    rw [digits, numberFrom?_append, hypothesis (number / 16) read]
    simp only [Option.bind_some, numberFrom?, value?_digit below]
    have step : Nat.pow 16 (count + 1) = 16 * Nat.pow 16 count := Nat.mul_comm _ _
    rw [step, Nat.mod_mul]
    congr 1
    grind

end Polystore.Hex
