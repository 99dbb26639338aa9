import Mathlib.Algebra.Group.Nat.Defs
import Mathlib.Data.List.Lex
import Mathlib.Order.Lattice

/-!
# Identifiers, claims and errors

`src/error.rs` and `src/types.rs`. An identifier is a string that passed the checks of its constructor, so a value of `ConsumerId`
or `MessageId` carries the proof that it did. Strings are Unicode strings with their UTF-8 bytes: lengths are in bytes, and
identifiers compare byte for byte.
-/

namespace Txbox

/-! ## Errors -/

/-- A boxed `dyn Error`: an error of the application, or one made from a message. -/
inductive BoxError (ε : Type) where
  | boxed (e : ε)
  | text (message : String)
  deriving DecidableEq, Repr

/-- An error returned by a user-supplied message handler. -/
abbrev HandlerError (ε : Type) : Type := BoxError ε

/-- An identifier rejected at construction. -/
inductive InvalidId where
  | empty
  | tooLong (len max : Nat)
  | scopeContainsSeparator
  | surroundingWhitespace
  deriving DecidableEq, Repr

/-- Errors produced by the inbox. -/
inductive InboxError (ε : Type) where
  | backend (source : BoxError ε)
  | handler (source : HandlerError ε)
  | contended
  | invalidId (source : InvalidId)
  deriving DecidableEq, Repr

/-! ## Strings -/

/-- `char::is_whitespace`: the code points with the Unicode property White_Space. -/
def isWhitespace (c : Char) : Bool :=
  let n := c.toNat
  (0x9 ≤ n && n ≤ 0xD) || n == 0x20 || n == 0x85 || n == 0xA0 || n == 0x1680 || (0x2000 ≤ n && n ≤ 0x200A) ||
    n == 0x2028 || n == 0x2029 || n == 0x202F || n == 0x205F || n == 0x3000

/-- A list of characters without the whitespace at its two ends. -/
def trimChars (l : List Char) : List Char :=
  ((l.dropWhile isWhitespace).reverse.dropWhile isWhitespace).reverse

/-- `str::trim`. -/
def trim (s : String) : String := String.ofList (trimChars s.toList)

/-- The UTF-8 bytes of a string, as numbers. -/
def bytes (s : String) : List Nat := s.toByteArray.data.toList.map UInt8.toNat

theorem bytes_injective : Function.Injective bytes := by
  intro s t h
  have h1 : s.toByteArray.data.toList = t.toByteArray.data.toList :=
    List.map_injective_iff.2 (fun a b hab => UInt8.toNat_inj.1 hab) h
  exact String.toByteArray_inj.1 (ByteArray.ext (Array.toList_inj.1 h1))

/-! ## Identifiers -/

/-- The checks of `string_newtype!`'s `TryFrom<String>`, in the order the source makes them. -/
def checkId (maxLen : Nat) (value : String) : Except InvalidId Unit :=
  if (trim value).isEmpty then .error .empty
  else if (trim value).utf8ByteSize ≠ value.utf8ByteSize then .error .surroundingWhitespace
  else if value.utf8ByteSize > maxLen then .error (.tooLong value.utf8ByteSize maxLen)
  else .ok ()

/-- `string_newtype!`: a string of at most `maxLen` bytes that passed the checks. -/
structure StringNewtype (maxLen : Nat) where
  asStr : String
  valid : checkId maxLen asStr = .ok ()
  deriving DecidableEq

/-- Identifies the logical consumer that processed a message. -/
abbrev ConsumerId : Type := StringNewtype 255

/-- Identifies a single message, as supplied by the broker or the producer. -/
abbrev MessageId : Type := StringNewtype 512

namespace StringNewtype

variable {maxLen : Nat}

/-- `TryFrom<String>`. -/
def tryFrom (value : String) : Except InvalidId (StringNewtype maxLen) :=
  match h : checkId maxLen value with
  | .ok () => .ok ⟨value, h⟩
  | .error e => .error e

theorem asStr_injective : Function.Injective (asStr : StringNewtype maxLen → String) := by
  rintro ⟨s, hs⟩ ⟨t, ht⟩ h
  cases h
  rfl

/-- Identifiers are ordered as their bytes are (`a.as_str().cmp(b.as_str())`). -/
instance : LinearOrder (StringNewtype maxLen) where
  le a b := bytes a.asStr ≤ bytes b.asStr
  lt a b := bytes a.asStr < bytes b.asStr
  le_refl a := le_refl (bytes a.asStr)
  le_trans a b c := le_trans (a := bytes a.asStr)
  lt_iff_le_not_ge a b := lt_iff_le_not_ge (a := bytes a.asStr)
  le_antisymm a b h h' := asStr_injective (bytes_injective (le_antisymm h h'))
  le_total a b := le_total (bytes a.asStr) (bytes b.asStr)
  toDecidableLE a b := inferInstanceAs (Decidable (bytes a.asStr ≤ bytes b.asStr))
  toDecidableLT a b := inferInstanceAs (Decidable (bytes a.asStr < bytes b.asStr))
  toDecidableEq := inferInstance

end StringNewtype

/-- `MessageId::scoped`: the two parts, each checked on its own, joined with `':'`. -/
def MessageId.scoped (scope id : String) : Except InvalidId MessageId := do
  if scope.toList.contains ':' then throw .scopeContainsSeparator
  for part in [scope, id] do
    if (trim part).isEmpty then throw .empty
    if (trim part).utf8ByteSize ≠ part.utf8ByteSize then throw .surroundingWhitespace
  StringNewtype.tryFrom (scope ++ ":" ++ id)

/-! ## Claims -/

/-- A `std::time::Duration`: a number of nanoseconds whose whole seconds fit in 64 bits. -/
structure Duration where
  asNanos : Nat
  bound : asNanos < 2 ^ 64 * 1000000000
  deriving DecidableEq, Repr

/-- `Duration::as_micros`: the whole microseconds. -/
def Duration.asMicros (d : Duration) : Nat := d.asNanos / 1000

/-- The result of attempting to record a message in the inbox. -/
inductive Claim where
  | fresh
  | duplicate
  deriving DecidableEq, Repr

/-- A request to record a message in the inbox. -/
structure ClaimRequest where
  consumer : ConsumerId
  id : MessageId
  lockTimeout : Option Duration
  deriving DecidableEq

/-- `ClaimRequest::new`: no lock timeout. -/
def ClaimRequest.new (consumer : ConsumerId) (id : MessageId) : ClaimRequest := ⟨consumer, id, none⟩

/-- A request to record several messages at once. -/
structure ClaimBatch where
  consumer : ConsumerId
  ids : List MessageId
  lockTimeout : Option Duration
  deriving DecidableEq

/-- `ClaimBatch::new`: no lock timeout. -/
def ClaimBatch.new (consumer : ConsumerId) (ids : List MessageId) : ClaimBatch := ⟨consumer, ids, none⟩

/-- The result of running a handler through the inbox. -/
inductive Outcome (T : Type) where
  | processed (value : T)
  | duplicate
  deriving DecidableEq, Repr

/-- What `process_many` reports for one message: its outcome, or the error its handler returned. -/
abbrev ProcessResult (ε T : Type) : Type := Except (HandlerError ε) (Outcome T)

/-- The primary key of the inbox table. -/
abbrev Key : Type := ConsumerId × MessageId

end Txbox
