import Txbox.Types
import Mathlib.Data.List.DropRight
import Mathlib.Data.List.TakeWhile
import Mathlib.Data.String.Basic

/-!
# Scoped message ids

`MessageId::scoped` joins a scope and an id with `':'`. Its domain is exactly the pairs of non-empty parts without whitespace at
their ends, with no `':'` in the scope, that fit in a message id, and the parts are read back by cutting at the first `':'`.
-/

namespace Txbox

/-- Neither the first nor the last character is whitespace. -/
def TrimmedEnds (s : String) : Prop :=
  (∀ c ∈ s.toList.head?, isWhitespace c = false) ∧ ∀ c ∈ s.toList.getLast?, isWhitespace c = false

/-- The pairs that `scoped` accepts. -/
structure Scopable (scope id : String) : Prop where
  noSeparator : ':' ∉ scope.toList
  scope_ne : scope ≠ ""
  id_ne : id ≠ ""
  scope_ends : TrimmedEnds scope
  id_ends : TrimmedEnds id
  fits : scope.utf8ByteSize + 1 + id.utf8ByteSize ≤ 512

/-- A string cut at its first `':'`. -/
def cutAtSeparator (s : String) : String × String :=
  (String.ofList (s.toList.takeWhile (· ≠ ':')), String.ofList ((s.toList.dropWhile (· ≠ ':')).drop 1))

/-- The checks `scoped` makes on one part, passed. -/
def PartPassed (part : String) : Prop :=
  (trim part).isEmpty = false ∧ (trim part).utf8ByteSize = part.utf8ByteSize

namespace ScopedAux

/-! ## Trimming -/

/-- Leaving out characters leaves out bytes. -/
theorem eq_of_sublist_of_utf8Len {l l' : List Char} (h : l.Sublist l') :
    String.utf8Len l ≤ String.utf8Len l' ∧ (String.utf8Len l = String.utf8Len l' → l = l') := by
  induction h with
  | slnil => simp
  | cons a h ih =>
    have ha := a.utf8Size_pos
    simp only [String.utf8Len_cons]
    refine ⟨by omega, ?_⟩
    intro heq
    omega
  | cons_cons a h ih =>
    simp only [String.utf8Len_cons]
    refine ⟨by omega, ?_⟩
    intro heq
    rw [ih.2 (by omega)]

/-- A trimmed list is a part of the list. -/
theorem trimChars_sublist (l : List Char) : (trimChars l).Sublist l := by
  have hr : (trimChars l).Sublist (l.dropWhile isWhitespace) := (List.rdropWhile_prefix isWhitespace _).sublist
  exact hr.trans (List.dropWhile_sublist _)

/-- A list is trimmed exactly when neither end is whitespace. -/
theorem trimChars_eq_self_iff (l : List Char) : trimChars l = l ↔
    (∀ c ∈ l.head?, isWhitespace c = false) ∧ ∀ c ∈ l.getLast?, isWhitespace c = false := by
  have hl : l.dropWhile isWhitespace = l ↔ ∀ c ∈ l.head?, isWhitespace c = false := by
    cases l with
    | nil => simp
    | cons a l => simp [List.dropWhile_eq_self_iff]
  have hr : l.rdropWhile isWhitespace = l ↔ ∀ c ∈ l.getLast?, isWhitespace c = false := by
    rw [List.rdropWhile_eq_self_iff]
    cases l with
    | nil => simp
    | cons a l => simp [List.getLast?_eq_some_getLast]
  rw [← hl, ← hr]
  constructor
  · intro h
    have hfirst : l.dropWhile isWhitespace = l := by
      refine (List.dropWhile_sublist isWhitespace).eq_of_length_le ?_
      have hlen : (trimChars l).length ≤ (l.dropWhile isWhitespace).length :=
        (List.rdropWhile_prefix isWhitespace _).sublist.length_le
      rwa [h] at hlen
    refine ⟨hfirst, ?_⟩
    have hsecond : (l.dropWhile isWhitespace).rdropWhile isWhitespace = l := h
    rwa [hfirst] at hsecond
  · rintro ⟨hfirst, hsecond⟩
    have h : (l.dropWhile isWhitespace).rdropWhile isWhitespace = l := by rw [hfirst, hsecond]
    exact h

/-- `trim` keeps the bytes of a string exactly when neither end is whitespace, and then keeps the string. -/
theorem trim_size_eq_iff (s : String) : (trim s).utf8ByteSize = s.utf8ByteSize ↔ TrimmedEnds s := by
  have hsize : (trim s).utf8ByteSize = s.utf8ByteSize ↔ String.utf8Len (trimChars s.toList) = String.utf8Len s.toList := by
    rw [trim, String.utf8ByteSize_ofList, ← String.utf8ByteSize_ofList s.toList, String.ofList_toList]
  rw [hsize, TrimmedEnds, ← trimChars_eq_self_iff]
  constructor
  · exact (eq_of_sublist_of_utf8Len (trimChars_sublist s.toList)).2
  · intro h
    rw [h]

/-- A string whose ends are not whitespace is its own trim. -/
theorem trim_eq_self {s : String} (h : TrimmedEnds s) : trim s = s := by
  rw [trim, (trimChars_eq_self_iff _).2 h, String.ofList_toList]

/-- The checks on a part, in terms of the part. -/
theorem partPassed_iff (part : String) : PartPassed part ↔ part ≠ "" ∧ TrimmedEnds part := by
  rw [PartPassed, trim_size_eq_iff]
  refine and_congr_left ?_
  intro h
  rw [trim_eq_self h, ← Bool.not_eq_true, String.isEmpty_iff]

/-! ## The joined string -/

variable {scope id : String}

theorem toList_join (scope id : String) : (scope ++ ":" ++ id).toList = scope.toList ++ ':' :: id.toList := by
  simp

theorem utf8ByteSize_join (scope id : String) :
    (scope ++ ":" ++ id).utf8ByteSize = scope.utf8ByteSize + 1 + id.utf8ByteSize := by
  have hsep : (":" : String).utf8ByteSize = 1 := by decide
  rw [String.utf8ByteSize_append, String.utf8ByteSize_append, hsep]

/-- The ends of the joined string are the first of the scope and the last of the id. -/
theorem trimmedEnds_join (hscope : scope ≠ "") (hid : id ≠ "") (hs : TrimmedEnds scope) (hi : TrimmedEnds id) :
    TrimmedEnds (scope ++ ":" ++ id) := by
  have hs' : scope.toList ≠ [] := by simpa using hscope
  have hi' : id.toList ≠ [] := by simpa using hid
  rw [TrimmedEnds, toList_join]
  constructor
  · intro c hc
    rw [List.head?_append_of_ne_nil _ hs'] at hc
    exact hs.1 c hc
  · intro c hc
    rw [List.getLast?_append_cons, List.getLast?_cons_of_ne_nil hi'] at hc
    exact hi.2 c hc

/-- Cutting the joined string gives back its parts. -/
theorem cutAtSeparator_join (h : ':' ∉ scope.toList) : cutAtSeparator (scope ++ ":" ++ id) = (scope, id) := by
  have hall : ∀ c ∈ scope.toList, decide (c ≠ ':') = true := by
    intro c hc
    have hne : c ≠ ':' := fun heq => h (heq ▸ hc)
    simpa using hne
  rw [cutAtSeparator, toList_join, List.takeWhile_append_of_pos hall, List.dropWhile_append_of_pos hall]
  simp

/-! ## The checks -/

/-- `checkId` of a string that is not empty and has no whitespace at its ends looks at its length only. -/
theorem checkId_of_trimmed {maxLen : Nat} {s : String} (hne : s ≠ "") (h : TrimmedEnds s) : checkId maxLen s =
    if s.utf8ByteSize > maxLen then .error (.tooLong s.utf8ByteSize maxLen) else .ok () := by
  have hempty : s.isEmpty = false := by simpa using hne
  simp [checkId, trim_eq_self h, hempty]

/-- `try_from` gives the string back when its checks pass. -/
theorem tryFrom_of_ok {maxLen : Nat} {s : String} (h : checkId maxLen s = .ok ()) :
    StringNewtype.tryFrom s = .ok (⟨s, h⟩ : StringNewtype maxLen) := by
  unfold StringNewtype.tryFrom
  split
  · rfl
  · rename_i e he
    rw [h] at he
    cases he

/-- `try_from` fails with the error of its checks. -/
theorem tryFrom_of_error {maxLen : Nat} {s : String} {e : InvalidId} (h : checkId maxLen s = .error e) :
    StringNewtype.tryFrom s = (.error e : Except InvalidId (StringNewtype maxLen)) := by
  unfold StringNewtype.tryFrom
  split
  · rename_i he
    rw [h] at he
    cases he
  · rename_i e' he
    rw [h] at he
    cases he
    rfl

/-- The last step of `scoped`, on parts that passed: the joined string is accepted unless it is too long. -/
theorem tryFrom_join (hs : PartPassed scope) (hi : PartPassed id) :
    (scope.utf8ByteSize + 1 + id.utf8ByteSize ≤ 512 → ∃ m : MessageId,
      StringNewtype.tryFrom (scope ++ ":" ++ id) = .ok m ∧ m.asStr = scope ++ ":" ++ id) ∧
    (512 < scope.utf8ByteSize + 1 + id.utf8ByteSize →
      StringNewtype.tryFrom (scope ++ ":" ++ id) =
        (.error (.tooLong (scope.utf8ByteSize + 1 + id.utf8ByteSize) 512) : Except InvalidId MessageId)) := by
  obtain ⟨hscope, hs⟩ := (partPassed_iff scope).1 hs
  obtain ⟨hid, hi⟩ := (partPassed_iff id).1 hi
  have hne : scope ++ ":" ++ id ≠ "" := by simp
  have hcheck := @checkId_of_trimmed 512 _ hne (trimmedEnds_join hscope hid hs hi)
  rw [utf8ByteSize_join] at hcheck
  constructor
  · intro hlen
    rw [if_neg (by omega)] at hcheck
    exact ⟨_, tryFrom_of_ok hcheck, rfl⟩
  · intro hlen
    rw [if_pos hlen] at hcheck
    exact tryFrom_of_error hcheck

/-- The checks `scoped` makes on one part. -/
def checkPart (part : String) : Except InvalidId Unit :=
  if (trim part).isEmpty then .error .empty
  else if (trim part).utf8ByteSize ≠ part.utf8ByteSize then .error .surroundingWhitespace
  else .ok ()

/-- What the checks of a part can say. -/
theorem checkPart_cases (part : String) :
    (trim part = "" ∧ checkPart part = .error .empty) ∨
    (trim part ≠ "" ∧ (trim part).utf8ByteSize ≠ part.utf8ByteSize ∧ checkPart part = .error .surroundingWhitespace) ∨
    (trim part ≠ "" ∧ (trim part).utf8ByteSize = part.utf8ByteSize ∧ checkPart part = .ok ()) := by
  unfold checkPart
  by_cases hempty : trim part = ""
  · simp [hempty]
  · by_cases hsize : (trim part).utf8ByteSize = part.utf8ByteSize
    · simp [hempty, hsize]
    · simp [hempty, hsize]

/-- The checks of a part succeed exactly when it passed them. -/
theorem checkPart_eq_ok_iff (part : String) : checkPart part = .ok () ↔ PartPassed part := by
  unfold PartPassed
  rcases checkPart_cases part with ⟨h, hp⟩ | ⟨h, h', hp⟩ | ⟨h, h', hp⟩
  · simp [h, hp]
  · simp [h', hp]
  · simp [h, h', hp]

/-- `scoped`, with its loop over the two parts written out. -/
theorem scoped_eq (scope id : String) : MessageId.scoped scope id =
    if scope.toList.contains ':' then .error .scopeContainsSeparator
    else (checkPart scope).bind fun _ => (checkPart id).bind fun _ => StringNewtype.tryFrom (scope ++ ":" ++ id) := by
  by_cases hsep : ':' ∈ scope.toList
  · simp [MessageId.scoped, hsep, throw, throwThe, MonadExceptOf.throw, bind, Except.bind]
  · rcases checkPart_cases scope with ⟨h, hs⟩ | ⟨h, h', hs⟩ | ⟨h, h', hs⟩
    · simp [MessageId.scoped, hsep, h, hs, throw, throwThe, MonadExceptOf.throw, bind, Except.bind, pure, Except.pure]
    · simp [MessageId.scoped, hsep, h, h', hs, throw, throwThe, MonadExceptOf.throw, bind, Except.bind, pure, Except.pure]
    · rcases checkPart_cases id with ⟨g, hi⟩ | ⟨g, g', hi⟩ | ⟨g, g', hi⟩
      · simp [MessageId.scoped, hsep, h, h', hs, g, hi, throw, throwThe, MonadExceptOf.throw, bind, Except.bind, pure, Except.pure]
      · simp [MessageId.scoped, hsep, h, h', hs, g, g', hi, throw, throwThe, MonadExceptOf.throw, bind, Except.bind, pure, Except.pure]
      · simp [MessageId.scoped, hsep, h, h', hs, g, g', hi, bind, Except.bind, pure, Except.pure]

/-- `scoped` on parts that passed their checks is its last step. -/
theorem scoped_of_passed (h : ':' ∉ scope.toList) (hs : PartPassed scope) (hi : PartPassed id) :
    MessageId.scoped scope id = StringNewtype.tryFrom (scope ++ ":" ++ id) := by
  rw [scoped_eq, (checkPart_eq_ok_iff scope).2 hs, (checkPart_eq_ok_iff id).2 hi, if_neg (by simpa using h)]
  simp only [Except.bind]

/-- `scoped` accepts only parts that passed their checks. -/
theorem passed_of_scoped_eq_ok {m : MessageId} (h : MessageId.scoped scope id = .ok m) :
    ':' ∉ scope.toList ∧ PartPassed scope ∧ PartPassed id := by
  rw [scoped_eq] at h
  rw [← checkPart_eq_ok_iff, ← checkPart_eq_ok_iff]
  split at h
  · cases h
  · rename_i hsep
    refine ⟨by simpa using hsep, ?_⟩
    cases hs : checkPart scope with
    | error e =>
      rw [hs] at h
      cases h
    | ok u =>
      cases hi : checkPart id with
      | error e =>
        rw [hs, hi] at h
        cases h
      | ok u => exact ⟨rfl, rfl⟩

/-- `scoped` accepts exactly the scopable pairs, and joins them. -/
theorem scoped_eq_ok_iff (m : MessageId) :
    MessageId.scoped scope id = .ok m ↔ Scopable scope id ∧ m.asStr = scope ++ ":" ++ id := by
  constructor
  · intro h
    obtain ⟨hsep, hs, hi⟩ := passed_of_scoped_eq_ok h
    rw [scoped_of_passed hsep hs hi] at h
    obtain ⟨hscope, hsends⟩ := (partPassed_iff scope).1 hs
    obtain ⟨hid, hiends⟩ := (partPassed_iff id).1 hi
    by_cases hlen : scope.utf8ByteSize + 1 + id.utf8ByteSize ≤ 512
    · obtain ⟨m', hok, hjoin⟩ := (tryFrom_join hs hi).1 hlen
      rw [hok] at h
      cases h
      exact ⟨⟨hsep, hscope, hid, hsends, hiends, hlen⟩, hjoin⟩
    · rw [(tryFrom_join hs hi).2 (by omega)] at h
      cases h
  · rintro ⟨hp, hjoin⟩
    have hs := (partPassed_iff scope).2 ⟨hp.scope_ne, hp.scope_ends⟩
    have hi := (partPassed_iff id).2 ⟨hp.id_ne, hp.id_ends⟩
    obtain ⟨m', hok, hjoin'⟩ := (tryFrom_join hs hi).1 hp.fits
    rw [scoped_of_passed hp.noSeparator hs hi, hok, StringNewtype.asStr_injective (hjoin.trans hjoin'.symm)]

end ScopedAux

open ScopedAux

/-- `MessageId::scoped` is an injective encoding with an exact domain: it accepts the scopable pairs and no others, cutting what it
returns at the first `':'` gives back the two parts, no two pairs share a result, and once the parts passed their own checks its
last step can fail only because the joined string is too long. -/
theorem scoped_exact_injective :
    (∀ scope id, (∃ m, MessageId.scoped scope id = .ok m) ↔ Scopable scope id) ∧
    (∀ scope id m, MessageId.scoped scope id = .ok m → cutAtSeparator m.asStr = (scope, id)) ∧
    (∀ scope id scope' id' m, MessageId.scoped scope id = .ok m → MessageId.scoped scope' id' = .ok m →
      scope = scope' ∧ id = id') ∧
    (∀ scope id e, PartPassed scope → PartPassed id →
      (StringNewtype.tryFrom (scope ++ ":" ++ id) : Except InvalidId MessageId) = .error e →
        e = .tooLong (scope.utf8ByteSize + 1 + id.utf8ByteSize) 512) := by
  have hcut : ∀ scope id m, MessageId.scoped scope id = .ok m → cutAtSeparator m.asStr = (scope, id) := by
    intro scope id m h
    obtain ⟨hp, hjoin⟩ := (scoped_eq_ok_iff m).1 h
    rw [hjoin, cutAtSeparator_join hp.noSeparator]
  refine ⟨?_, hcut, ?_, ?_⟩
  · intro scope id
    constructor
    · rintro ⟨m, h⟩
      exact ((scoped_eq_ok_iff m).1 h).1
    · intro hp
      have hs := (partPassed_iff scope).2 ⟨hp.scope_ne, hp.scope_ends⟩
      have hi := (partPassed_iff id).2 ⟨hp.id_ne, hp.id_ends⟩
      obtain ⟨m, hok, hjoin⟩ := (tryFrom_join hs hi).1 hp.fits
      exact ⟨m, (scoped_eq_ok_iff m).2 ⟨hp, hjoin⟩⟩
  · intro scope id scope' id' m h h'
    have heq := (hcut scope id m h).symm.trans (hcut scope' id' m h')
    exact ⟨congrArg Prod.fst heq, congrArg Prod.snd heq⟩
  · intro scope id e hs hi herror
    by_cases hlen : scope.utf8ByteSize + 1 + id.utf8ByteSize ≤ 512
    · obtain ⟨m, hok, _⟩ := (tryFrom_join hs hi).1 hlen
      rw [hok] at herror
      cases herror
    · rw [(tryFrom_join hs hi).2 (by omega)] at herror
      cases herror
      rfl

/-- An id that begins with a separator is read back whole. -/
theorem scoped_exact_injective_orders : Scopable "orders" ":1" ∧
    ∃ m, MessageId.scoped "orders" ":1" = .ok m ∧ cutAtSeparator m.asStr = ("orders", ":1") := by
  have hends : ∀ first last : Char, isWhitespace first = false → isWhitespace last = false → ∀ s : String,
      s.toList.head? = some first → s.toList.getLast? = some last → TrimmedEnds s := by
    intro first last hfirst hlast s hhead hend
    refine ⟨?_, ?_⟩
    · intro c hc
      rw [hhead] at hc
      cases hc
      exact hfirst
    · intro c hc
      rw [hend] at hc
      cases hc
      exact hlast
  have hp : Scopable "orders" ":1" :=
    ⟨by decide, by decide, by decide, hends 'o' 's' (by decide) (by decide) _ rfl rfl,
      hends ':' '1' (by decide) (by decide) _ rfl rfl, by decide⟩
  obtain ⟨m, h⟩ := (scoped_exact_injective.1 "orders" ":1").2 hp
  exact ⟨hp, m, h, scoped_exact_injective.2.1 _ _ m h⟩

end Txbox
