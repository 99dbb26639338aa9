import Txbox.Theorems.Purge
import Txbox.Lemmas.Timestamps

/-!
# Text timestamps order like time

On SQLite `processed_at` and the cutoff of a purge are RFC 3339 texts of four lengths, compared byte by byte. For the rows' instants in
the years 0 to 9999 and a cutoff no later than that, also one before year 0, the order of the texts is the order of the instants. So a
purge deletes exactly the rows that are earlier than its cutoff, the earliest first.
-/

namespace Txbox

open Lib

namespace SqliteInbox

/-- The year of an instant has four digits. -/
def FourDigits (t : DateTime) : Prop := 0 ≤ t.date.year ∧ t.date.year ≤ 9999

/-- The table holds these instants, in the years 0 to 9999, as sqlx stores them. -/
structure Stores (table : Table String) (instants : String × String → Option DateTime) : Prop where
  text : ∀ key, table key = (instants key).map DateTime.toRfc3339
  years : ∀ key t, instants key = some t → FourDigits t

end SqliteInbox

namespace TimestampsAux

open SqliteInbox PurgeAux

variable {table : Table String} {instants : String × String → Option DateTime}

/-- A row is below the text of a cutoff when its instant is earlier. -/
theorem below_iff (h : Stores table instants) {cutoff : DateTime} (hcutoff : cutoff.date.year ≤ 9999) {key : String × String}
    {t : DateTime} (ht : instants key = some t) :
    Below (table.column bytes) ((bytes cutoff.toRfc3339 : List Nat) : WithBot (List Nat)) key ↔ t.nanos < cutoff.nanos := by
  have hrow : table.column bytes key = some (bytes t.toRfc3339) := by
    rw [Table.column, h.text, ht]
    rfl
  rw [← DateTime.bytes_toRfc3339_lt_iff (h.years key t ht) hcutoff]
  unfold Below
  rw [hrow]
  simp

/-- Texts with four digits for the year are in the order of their instants. -/
theorem bytes_toRfc3339_le_iff {a b : DateTime} (ha : FourDigits a) (hb : FourDigits b) :
    bytes a.toRfc3339 ≤ bytes b.toRfc3339 ↔ a.nanos ≤ b.nanos := by
  rw [← not_lt, ← not_lt, DateTime.bytes_toRfc3339_lt_iff hb ha.2]

end TimestampsAux

open SqliteInbox TimestampsAux PurgeAux

/-- The texts order like time, so a purge deletes exactly the rows that are earlier than its cutoff and no statement deletes a row
while it leaves an earlier one. -/
theorem toRfc3339_orders_like_time :
    (∀ a b : DateTime, FourDigits a → b.date.year ≤ 9999 → (bytes a.toRfc3339 < bytes b.toRfc3339 ↔ a.nanos < b.nanos)) ∧
    (∀ (policy : RetentionPolicy) (s : PurgeConn DateTime String (List Nat)) (instants : String × String → Option DateTime)
      (maxAge : Int) (cutoff : DateTime), policy.Built → s.table.keys.Finite → Stores s.table instants →
      fromStd policy.maxAge = some maxAge → DateTime.ofNanos ((s.clock 0).nanos - maxAge) = some cutoff → cutoff.date.year ≤ 9999 →
        ∃ total s', (∀ fuel, s.table.keys.ncard < fuel →
          Prog.run purgeServer.exec none (purge (ε := Unit) policy fuel) s = (.returned (some (.ok total)), s')) ∧
          ∀ key t, instants key = some t → (s'.table key = none ↔ t.nanos < cutoff.nanos)) ∧
    (∀ (s : PurgeConn DateTime String (List Nat)) (instants : String × String → Option DateTime) (cutoff : DateTime) (limit : Nat)
      (key key' : String × String) (t t' : DateTime), s.table.keys.Finite → Stores s.table instants → cutoff.date.year ≤ 9999 →
      instants key = some t → instants key' = some t' → t'.nanos < cutoff.nanos →
      key ∈ picked purgeServer cutoff limit s → key' ∉ picked purgeServer cutoff limit s → t.nanos ≤ t'.nanos) := by
  refine ⟨fun a b ha hb => DateTime.bytes_toRfc3339_lt_iff ha hb, ?_, ?_⟩
  · intro policy s instants maxAge cutoff hpolicy hfin hstores hage hcutoff hyear
    obtain ⟨total, s', hrun, hpurged, hexact⟩ := (@purgesExactly_sqlite Unit _ _ _ _ hpolicy bytes
      (fun cutoff => (bytes cutoff.toRfc3339 : List Nat)) s maxAge cutoff hfin hage hcutoff).returns
    obtain ⟨hgone, hkept, _⟩ := hexact _ (fun _ => rfl)
    refine ⟨total, s', hrun, ?_⟩
    intro key t ht
    have hiff := below_iff hstores hyear ht
    have hrow : s.table key ≠ none := by
      rw [hstores.text, ht]
      simp
    constructor
    · intro hnone
      by_contra hlate
      exact hrow (by rw [← hkept key (fun hbelow => hlate (hiff.1 hbelow)), hnone])
    · intro hearly
      exact hgone key (hiff.2 hearly)
  · intro s instants cutoff limit key key' t t' hfin hstores hyear ht ht' hearly hin hout
    have hbelow : Below (s.table.column bytes) _ key' := (below_iff hstores hyear ht').2 hearly
    have hfinite : {k | Below (s.table.column bytes) ((bytes cutoff.toRfc3339 : List Nat) : WithBot (List Nat)) k}.Finite :=
      hfin.subset (fun k hk => mem_keys_of_below hk)
    have hcolumn : ∀ key t, instants key = some t → s.table.column bytes key = some (bytes t.toRfc3339) := by
      intro key t ht
      rw [Table.column, hstores.text, ht]
      rfl
    rw [← bytes_toRfc3339_le_iff (hstores.years key t ht) (hstores.years key' t' ht')]
    exact (s.picks 0).first hfinite hin hout hbelow (hcolumn key t ht) (hcolumn key' t' ht')

/-- Half a second past the beginning of 2026. -/
def halfPast : DateTime := ⟨1767225600500000000, by decide, by decide⟩

/-- One and two seconds later than that. -/
def oneLater : DateTime := ⟨1767225601500000000, by decide, by decide⟩
def twoLater : DateTime := ⟨1767225602500000000, by decide, by decide⟩

/-- The last second before year 0. -/
def beforeYearZero : DateTime := ⟨-62167219201 * 1000000000, by decide, by decide⟩

/-- Two messages, processed at half past and a second later. -/
def twoInstants (key : String × String) : Option DateTime :=
  if key = ("mail", "1") then some halfPast else if key = ("mail", "2") then some oneLater else none

/-- A pool with their rows, three seconds and a half after the first. -/
noncomputable def twoRows : PurgeConn DateTime String (List Nat) :=
  ⟨fun _ => ⟨1767225604000000000, by decide, by decide⟩, fun _ => Picker.choose, fun key => (twoInstants key).map DateTime.toRfc3339⟩

/-- A second and a half. -/
def secondAndHalf : RetentionPolicy := .new ⟨1500000000, by decide⟩

/-- A cutoff before year 0 is below every row, and a fraction is above none. A purge that keeps a second and a half
deletes the row that is older, and a statement for one row does not take the later row and leave the earlier one. -/
theorem toRfc3339_orders_like_time_halfPast :
    (halfPast.toRfc3339 = "2026-01-01T00:00:00.500+00:00" ∧ beforeYearZero.toRfc3339 = "-0001-12-31T23:59:59+00:00" ∧
      FourDigits halfPast ∧ ¬ bytes halfPast.toRfc3339 < bytes beforeYearZero.toRfc3339) ∧
    (∃ total s', (∀ fuel, twoRows.table.keys.ncard < fuel →
      Prog.run purgeServer.exec none (purge (ε := Unit) secondAndHalf fuel) twoRows = (.returned (some (.ok total)), s')) ∧
      s'.table ("mail", "1") = none) ∧
    ¬(("mail", "2") ∈ picked purgeServer twoLater 1 twoRows ∧ ("mail", "1") ∉ picked purgeServer twoLater 1 twoRows) := by
  have hyears : FourDigits halfPast := ⟨by decide, by decide⟩
  have hfirst : twoInstants ("mail", "1") = some halfPast := rfl
  have hsecond : twoInstants ("mail", "2") = some oneLater := rfl
  have hstores : Stores twoRows.table twoInstants := by
    refine ⟨fun key => rfl, ?_⟩
    intro key t ht
    unfold twoInstants at ht
    split_ifs at ht
    · cases ht
      exact hyears
    · cases ht
      exact ⟨by decide, by decide⟩
  have hfin : twoRows.table.keys.Finite := by
    refine ((Set.finite_singleton ("mail", "2")).insert ("mail", "1")).subset ?_
    intro key hkey
    rw [Table.mem_keys_iff, hstores.text] at hkey
    by_contra hout
    rw [Set.mem_insert_iff, Set.mem_singleton_iff, not_or] at hout
    exact hkey (by rw [twoInstants, if_neg hout.1, if_neg hout.2]; rfl)
  refine ⟨⟨by decide, by decide, hyears, ?_⟩, ?_, ?_⟩
  · rw [toRfc3339_orders_like_time.1 halfPast beforeYearZero hyears (by decide)]
    decide
  · obtain ⟨total, s', hrun, hgone⟩ := toRfc3339_orders_like_time.2.1 secondAndHalf twoRows twoInstants 1500000000 twoLater (.new _) hfin
      hstores rfl rfl (by decide)
    exact ⟨total, s', hrun, (hgone _ _ hfirst).2 (by decide)⟩
  · rintro ⟨hin, hout⟩
    have hle := toRfc3339_orders_like_time.2.2 twoRows twoInstants twoLater 1 _ _ _ _ hfin hstores (by decide) hsecond hfirst
      (by decide) hin hout
    exact absurd hle (by decide)

end Txbox
