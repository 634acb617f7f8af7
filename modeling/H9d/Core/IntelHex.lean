import Mathlib.Data.BitVec
import Mathlib.Data.List.Forall2

/-! # Intel HEX files

A file is a sequence of records, one in each line. A record is written in hexadecimal digits of either case, and
its bytes add up to zero. The records for 32 bit addresses that a linker writes are the ones below.
-/

namespace IntelHex

inductive Record
  /-- type 00 -/
  | data (address : BitVec 16) (bytes : List (BitVec 8)) (short : bytes.length < 2 ^ 8)
  /-- type 01 -/
  | endOfFile (address : BitVec 16)
  /-- type 04: the upper half of the addresses that follow -/
  | extendedLinearAddress (upper : BitVec 16)

def high (x : BitVec 16) : BitVec 8 := (x >>> 8).setWidth 8
def low (x : BitVec 16) : BitVec 8 := x.setWidth 8

namespace Record

/-- The byte count, the address, the type, and the data. -/
def body : Record → List (BitVec 8)
  | data address bytes _ => BitVec.ofNat 8 bytes.length :: high address :: low address :: 0 :: bytes
  | endOfFile address => [0, high address, low address, 1]
  | extendedLinearAddress upper => [2, 0, 0, 4, high upper, low upper]

def checksum (r : Record) : BitVec 8 := -r.body.sum

def bytes (r : Record) : List (BitVec 8) := r.body ++ [r.checksum]

/-- The upper half of the addresses behind a record. -/
def upper : Record → BitVec 16 → BitVec 16
  | extendedLinearAddress upper, _ => upper
  | _, before => before

/-- Where the data of a record belong. -/
def segment : Record → BitVec 16 → Option (ℕ × List (BitVec 8))
  | data address bytes _, upper => some (upper.toNat * 2 ^ 16 + address.toNat, bytes)
  | _, _ => none

end Record

/-- The data of a sequence of records at their absolute addresses. -/
def segments : BitVec 16 → List Record → List (ℕ × List (BitVec 8))
  | _, [] => []
  | upper, r :: rest => (r.segment upper).toList ++ segments (r.upper upper) rest

/-- A digit, where the one for ten is `ten`. -/
def digit (ten : BitVec 8) (v : BitVec 4) : BitVec 8 :=
  if v < 10 then 0x30 + v.setWidth 8 else ten + (v - 10).setWidth 8

def IsDigit (c : BitVec 8) (v : BitVec 4) : Prop := c = digit 0x41 v ∨ c = digit 0x61 v

/-- A text of two digits for each byte. -/
inductive Hex : List (BitVec 8) → List (BitVec 8) → Prop
  | nil : Hex [] []
  | cons {c d b : BitVec 8} {text bytes : List (BitVec 8)} (first : IsDigit c ((b >>> 4).setWidth 4))
      (second : IsDigit d (b.setWidth 4)) (rest : Hex text bytes) : Hex (c :: d :: text) (b :: bytes)

def IsEndOfLine (eol : List (BitVec 8)) : Prop := eol = [0x0a] ∨ eol = [0x0d, 0x0a]

/-- A record in its line; the end of the line may be missing. -/
def Line (line : List (BitVec 8)) (r : Record) : Prop :=
  ∃ text eol, Hex text r.bytes ∧ (eol = [] ∨ IsEndOfLine eol) ∧ line = 0x3a :: text ++ eol

/-- The last line of a file may have no end. -/
inductive File : List (BitVec 8) → List Record → Prop
  | nil : File [] []
  | last {text : List (BitVec 8)} {r : Record} (hex : Hex text r.bytes) : File (0x3a :: text) [r]
  | cons {text eol rest : List (BitVec 8)} {r : Record} {records : List Record} (hex : Hex text r.bytes)
      (ends : IsEndOfLine eol) (file : File rest records) :
      File (0x3a :: text ++ eol ++ rest) (r :: records)

section Digits

variable {c : BitVec 8} {v : BitVec 4}

/-- What is true of each of the digits. -/
theorem IsDigit.all {P : BitVec 8 → BitVec 4 → Prop} (each : ∀ v, P (digit 0x41 v) v ∧ P (digit 0x61 v) v)
    (isDigit : IsDigit c v) : P c v := by
  rcases isDigit with rfl | rfl
  · exact (each v).1
  · exact (each v).2

theorem Hex.length {text bytes : List (BitVec 8)} (hex : Hex text bytes) : text.length = 2 * bytes.length := by
  induction hex with
  | nil => rfl
  | cons first second rest ih =>
    rw [List.length_cons, List.length_cons, List.length_cons, ih]
    rfl

/-- What is true of each digit is true of each character. -/
theorem Hex.forall_mem {P : BitVec 8 → Prop} (each : ∀ v, P (digit 0x41 v) ∧ P (digit 0x61 v))
    {text bytes : List (BitVec 8)} (hex : Hex text bytes) : ∀ c ∈ text, P c := by
  induction hex with
  | nil => exact fun _ => nofun
  | cons first second rest ih =>
    have all {c : BitVec 8} {v : BitVec 4} : IsDigit c v → P c := IsDigit.all (P := fun c _ => P c) each
    exact List.forall_mem_cons.mpr ⟨all first, List.forall_mem_cons.mpr ⟨all second, ih⟩⟩

/-- The two digits of a byte. -/
theorem Hex.getElem? {text bytes : List (BitVec 8)} (hex : Hex text bytes) {k : ℕ} {b : BitVec 8}
    (byte : bytes[k]? = some b) :
    ∃ c d, text[2 * k]? = some c ∧ text[2 * k + 1]? = some d ∧
      IsDigit c ((b >>> 4).setWidth 4) ∧ IsDigit d (b.setWidth 4) := by
  induction hex generalizing k with
  | nil => cases byte
  | cons first second rest ih =>
    cases k with
    | zero =>
      cases byte
      exact ⟨_, _, rfl, rfl, first, second⟩
    | succ k => exact ih byte

end Digits

section Writing

/-- The digits of bytes in upper case. -/
def digits (bytes : List (BitVec 8)) : List (BitVec 8) :=
  bytes.flatMap fun (b : BitVec 8) => [digit 0x41 ((b >>> 4).setWidth 4), digit 0x41 (b.setWidth 4)]

/-- A file of records, in the form that most programs write. -/
def file (records : List Record) : List (BitVec 8) :=
  records.flatMap fun r => 0x3a :: digits r.bytes ++ [0x0a]

theorem hex_digits (bytes : List (BitVec 8)) : Hex (digits bytes) bytes := by
  induction bytes with
  | nil => exact .nil
  | cons b bytes ih => exact .cons (.inl rfl) (.inl rfl) ih

/-- Every sequence of records has a file. -/
theorem file_file (records : List Record) : File (file records) records := by
  induction records with
  | nil => exact .nil
  | cons r records ih => exact .cons (hex_digits r.bytes) (.inl rfl) ih

end Writing

end IntelHex
