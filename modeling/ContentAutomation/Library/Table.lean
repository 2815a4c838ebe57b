import Mathlib.Data.List.Basic
import Mathlib.Data.List.Pairwise

/-!
# Tables with enforced constraints

A relational table is a list of rows together with named `CHECK` constraints
and unique indexes. The constraints are part of the table: a list of rows that
violates one of them is not a table, and an insert or update that would produce
such a list fails with the name of the violated constraint.
-/

namespace Relational

open List

/-- The constraints of a table over rows of type `Row`. A check is a named
predicate on one row; an index is a named test that two rows share their key. -/
structure Schema (Row : Type*) where
  /-- `CHECK` constraints, by name. -/
  checks : List (String × (Row → Bool))
  /-- Unique indexes, by name. A key with a null component is shared with no row. -/
  indexes : List (String × (Row → Row → Bool))

/-- The reason why the database refuses a statement. -/
inductive Violation
  | check (constraint : String)
  | unique (index : String)
  deriving DecidableEq

variable {Row : Type*} {S : Schema Row}

/-- The first check that a row fails. -/
def Schema.failedCheck (S : Schema Row) (row : Row) : Option String :=
  (S.checks.find? fun check => !check.2 row).map Prod.fst

/-- The first unique index under which two rows have the same key. -/
def Schema.collision (S : Schema Row) (row other : Row) : Option String :=
  (S.indexes.find? fun index => index.2 row other).map Prod.fst

/-- The first pair of rows, in table order, that collides. -/
def Schema.firstCollision (S : Schema Row) : List Row → Option String
  | [] => none
  | row :: rows => (rows.findSome? (S.collision row)).or (S.firstCollision rows)

/-- What is wrong with a list of rows. Checks are evaluated before the indexes
are consulted. -/
def Schema.violation (S : Schema Row) (rows : List Row) : Option Violation :=
  ((rows.findSome? S.failedCheck).map Violation.check).or
    ((S.firstCollision rows).map Violation.unique)

/-- A table: rows that violate no constraint of the schema. -/
@[ext] structure Table (S : Schema Row) where
  /-- The rows, in insertion order. -/
  rows : List Row
  /-- The database has accepted every row. -/
  valid : S.violation rows = none

variable {constraint : String} {t t' : Table S}

namespace Schema

theorem failedCheck_eq_none {row : Row} :
    S.failedCheck row = none ↔ ∀ check ∈ S.checks, check.2 row := by
  simp [failedCheck]

theorem collision_eq_none {row other : Row} :
    S.collision row other = none ↔ ∀ index ∈ S.indexes, index.2 row other = false := by
  simp [collision]

variable {rows : List Row}

private theorem firstCollision_eq_none :
    S.firstCollision rows = none ↔ rows.Pairwise fun row other => S.collision row other = none := by
  induction rows with
  | nil => simp [firstCollision]
  | cons row rows ih =>
    rw [firstCollision, Option.or_eq_none_iff, ih, pairwise_cons, List.findSome?_eq_none_iff]

/-- A list of rows is a table exactly when every row passes the checks and no
two rows collide. -/
theorem violation_eq_none :
    S.violation rows = none ↔ (∀ row ∈ rows, S.failedCheck row = none) ∧
      rows.Pairwise fun row other => S.collision row other = none := by
  rw [violation, Option.or_eq_none_iff, Option.map_eq_none_iff, Option.map_eq_none_iff,
    firstCollision_eq_none, List.findSome?_eq_none_iff]

theorem violation_of_sublist {rows' : List Row} (h : rows'.Sublist rows)
    (hvalid : S.violation rows = none) : S.violation rows' = none := by
  obtain ⟨hchecked, hapart⟩ := violation_eq_none.mp hvalid
  exact violation_eq_none.mpr ⟨fun row hrow => hchecked row (h.subset hrow), hapart.sublist h⟩

private theorem violation_check (h : S.violation rows = some (.check constraint)) :
    ∃ row ∈ rows, S.failedCheck row = some constraint := by
  cases hfailed : rows.findSome? S.failedCheck with
  | none => simp [violation, hfailed] at h
  | some name =>
    have hname : name = constraint := by simpa [violation, hfailed] using h
    obtain ⟨row, hmem, hrow⟩ := exists_of_findSome?_eq_some hfailed
    exact ⟨row, hmem, hname ▸ hrow⟩

theorem violation_nil (S : Schema Row) : S.violation [] = none := rfl

end Schema

namespace Table

/-- The table without rows. -/
def empty (S : Schema Row) : Table S := ⟨[], by simp [Schema.violation, Schema.firstCollision]⟩

/-- Accept a list of rows, or name the violated constraint. -/
def ofRows (S : Schema Row) (rows : List Row) : Except Violation (Table S) :=
  match h : S.violation rows with
  | some violation => .error violation
  | none => .ok ⟨rows, h⟩

/-- The first row, in table order, that satisfies a condition. -/
def findFirst (t : Table S) (selects : Row → Bool) : Option Row := t.rows.find? selects

/-- Replace every selected row by its updated version, as one statement. The
result counts the selected rows. -/
def updateMany (t : Table S) (data : Row → Row) (selects : Row → Bool) :
    Except Violation (Table S × ℕ) := do
  let updated ← ofRows S (t.rows.map fun row => if selects row then data row else row)
  pure (updated, t.rows.countP selects)

/-- Insert one row. -/
def create (t : Table S) (row : Row) : Except Violation (Table S) := ofRows S (t.rows ++ [row])

/-- Insert several rows, as one statement. -/
def createMany (t : Table S) (rows : List Row) : Except Violation (Table S) :=
  ofRows S (t.rows ++ rows)

/-- Insert one row unless an index already holds its key (`ON CONFLICT DO NOTHING`).
The checks are evaluated before the conflict is looked for. -/
def createSkippingDuplicates (t : Table S) (row : Row) : Except Violation (Table S) :=
  match S.failedCheck row with
  | some constraint => .error (.check constraint)
  | none => if t.rows.any fun other => (S.collision other row).isSome then .ok t else t.create row

variable {rows : List Row} {row : Row}

private theorem ofRows_eq_ok :
    ofRows S rows = .ok t ↔ t.rows = rows := by
  unfold ofRows
  split
  · next violation h =>
    constructor
    · intro hok
      cases hok
    · intro hrows
      have hvalid := t.valid
      rw [hrows, h] at hvalid
      cases hvalid
  · next h =>
    constructor
    · intro hok
      cases hok
      rfl
    · intro hrows
      congr 1
      exact Table.ext hrows.symm

private theorem ofRows_eq_error {violation : Violation} :
    ofRows S rows = .error violation ↔ S.violation rows = some violation := by
  unfold ofRows
  split <;> simp_all

theorem updateMany_eq_ok {data : Row → Row} {selects : Row → Bool} {n : ℕ} :
    t.updateMany data selects = .ok (t', n) ↔
      t'.rows = t.rows.map (fun row => if selects row then data row else row) ∧
        n = t.rows.countP selects := by
  unfold updateMany
  cases h : ofRows S (t.rows.map fun row => if selects row then data row else row) with
  | error violation =>
    have hne : t'.rows ≠ t.rows.map fun row => if selects row then data row else row := by
      intro hrows
      rw [ofRows_eq_ok.mpr hrows] at h
      cases h
    simp [Bind.bind, Except.bind, hne]
  | ok updated =>
    have hrows := ofRows_eq_ok.mp h
    simp only [Bind.bind, Except.bind, Pure.pure, Except.pure, Except.ok.injEq, Prod.mk.injEq]
    constructor
    · rintro ⟨rfl, rfl⟩
      exact ⟨hrows, rfl⟩
    · rintro ⟨hrows', rfl⟩
      exact ⟨Table.ext (hrows.trans hrows'.symm), rfl⟩

theorem checked (t : Table S) (hrow : row ∈ t.rows) : S.failedCheck row = none :=
  (Schema.violation_eq_none.mp t.valid).1 row hrow

theorem pairwise (t : Table S) :
    t.rows.Pairwise fun row other => S.collision row other = none :=
  (Schema.violation_eq_none.mp t.valid).2

/-- An update reports a failed check only when the new version of a selected
row fails it: the other rows were accepted before. -/
theorem updateMany_check {data : Row → Row} {selects : Row → Bool} (h : t.updateMany data selects = .error (.check constraint)) :
    ∃ row ∈ t.rows, selects row ∧ S.failedCheck (data row) = some constraint := by
  unfold updateMany at h
  cases hrows : ofRows S (t.rows.map fun row => if selects row then data row else row) with
  | ok updated => simp [hrows, Bind.bind, Except.bind, Pure.pure, Except.pure] at h
  | error violation =>
    have hviolation : violation = .check constraint := by
      simpa [hrows, Bind.bind, Except.bind] using h
    subst hviolation
    obtain ⟨row', hmem, hfailed⟩ := Schema.violation_check (ofRows_eq_error.mp hrows)
    obtain ⟨row, hrow, rfl⟩ := mem_map.mp hmem
    by_cases hselects : selects row = true
    · exact ⟨row, hrow, hselects, by simpa [hselects] using hfailed⟩
    · simp [hselects, t.checked hrow] at hfailed

theorem create_eq_ok :
    t.create row = .ok t' ↔ t'.rows = t.rows ++ [row] := ofRows_eq_ok

theorem createMany_eq_ok :
    t.createMany rows = .ok t' ↔ t'.rows = t.rows ++ rows := ofRows_eq_ok

theorem create_check (h : t.create row = .error (.check constraint)) :
    S.failedCheck row = some constraint := by
  obtain ⟨row', hmem, hfailed⟩ := Schema.violation_check (ofRows_eq_error.mp h)
  rcases mem_append.mp hmem with hold | hnew
  · simp [t.checked hold] at hfailed
  · rwa [mem_singleton.mp hnew] at hfailed

theorem create_fresh (h : t.create row = .ok t') {other : Row}
    (hother : other ∈ t.rows) : S.collision other row = none := by
  have hpairwise := t'.pairwise
  rw [create_eq_ok.mp h, pairwise_append] at hpairwise
  exact hpairwise.2.2 other hother row (mem_singleton_self row)

end Table

theorem find?_eq_some_of_pairwise {p : Row → Bool} {rows : List Row}
    (hrows : rows.Pairwise fun row other => ¬ (p row ∧ p other)) {row : Row}
    (hmem : row ∈ rows) (hp : p row) : rows.find? p = some row := by
  induction rows with
  | nil => simp at hmem
  | cons head rows ih =>
    obtain ⟨hhead, htail⟩ := pairwise_cons.mp hrows
    rcases mem_cons.mp hmem with rfl | hmem
    · simp [hp]
    · have hne : ¬ p head = true := fun hp' => hhead row hmem ⟨hp', hp⟩
      simp [hne, ih htail hmem]

theorem countP_eq_one_of_pairwise {p : Row → Bool} {rows : List Row}
    (hrows : rows.Pairwise fun row other => ¬ (p row ∧ p other)) {row : Row}
    (hmem : row ∈ rows) (hp : p row) : rows.countP p = 1 := by
  induction rows with
  | nil => simp at hmem
  | cons head rows ih =>
    obtain ⟨hhead, htail⟩ := pairwise_cons.mp hrows
    rcases mem_cons.mp hmem with rfl | hmem
    · have hzero : rows.countP p = 0 :=
        countP_eq_zero.mpr fun other hother hp' => hhead other hother ⟨hp, hp'⟩
      simp [hp, hzero]
    · have hne : ¬ p head = true := fun hp' => hhead row hmem ⟨hp', hp⟩
      simp [hne, ih htail hmem]

/-- A unique index of the schema holds the key: rows with equal keys collide. -/
def Schema.KeyedBy {κ : Type*} (S : Schema Row) (key : Row → κ) : Prop :=
  ∃ index ∈ S.indexes, ∀ row other, key row = key other → index.2 row other = true

theorem Schema.KeyedBy.collision_ne_none {κ : Type*} {key : Row → κ} (hkey : S.KeyedBy key)
    {row other : Row} (heq : key row = key other) : S.collision row other ≠ none := by
  obtain ⟨index, hindex, hsame⟩ := hkey
  intro hnone
  have hfalse := Schema.collision_eq_none.mp hnone index hindex
  rw [hsame _ _ heq] at hfalse
  cases hfalse

/-- The new versions of rows keep the keys of the old ones: no index tells them
apart. -/
def Schema.KeepsKeys (S : Schema Row) (data : Row → Row) : Prop :=
  ∀ index ∈ S.indexes, ∀ row other,
    index.2 (data row) other = index.2 row other ∧ index.2 other (data row) = index.2 other row

/-- The update gives no row a key that it did not have. -/
def Schema.FreesKeys (S : Schema Row) (data : Row → Row) : Prop :=
  ∀ index ∈ S.indexes, ∀ row other,
    (index.2 row other = false → index.2 (data row) other = false) ∧
      (index.2 other row = false → index.2 other (data row) = false)

theorem Schema.KeepsKeys.frees {data : Row → Row} (h : S.KeepsKeys data) : S.FreesKeys data := by
  intro index hindex row other
  obtain ⟨hleft, hright⟩ := h index hindex row other
  exact ⟨fun hsame => hleft.trans hsame, fun hsame => hright.trans hsame⟩

namespace Table

variable {κ : Type*} {key : Row → κ} {k : κ}

theorem pairwise_key (hkey : S.KeyedBy key) (t : Table S) :
    t.rows.Pairwise fun row other => key row ≠ key other := by
  exact t.pairwise.imp fun hnone heq => hkey.collision_ne_none heq hnone

variable [DecidableEq κ] {row : Row}

/-- The row under a key. -/
def lookup (t : Table S) (key : Row → κ) (k : κ) : Option Row :=
  t.findFirst fun row => key row == k

theorem lookup_spec (h : t.lookup key k = some row) : row ∈ t.rows ∧ key row = k :=
  ⟨mem_of_find?_eq_some h, by simpa using List.find?_some h⟩

theorem lookup_eq_none : t.lookup key k = none ↔ ∀ row ∈ t.rows, key row ≠ k := by
  simp [lookup, findFirst]

theorem lookup_eq_some (hkey : S.KeyedBy key) :
    t.lookup key k = some row ↔ row ∈ t.rows ∧ key row = k := by
  refine ⟨lookup_spec, fun ⟨hmem, heq⟩ => find?_eq_some_of_pairwise ?_ hmem (by simpa using heq)⟩
  refine (t.pairwise_key hkey).imp fun hne hboth => hne ?_
  simp only [beq_iff_eq] at hboth
  rw [hboth.1, hboth.2]

theorem eq_of_key (hkey : S.KeyedBy key) {other : Row} (hrow : row ∈ t.rows)
    (hother : other ∈ t.rows) (heq : key row = key other) : row = other := by
  have hlookup := (lookup_eq_some hkey).mpr ⟨hrow, heq⟩
  rw [(lookup_eq_some hkey).mpr ⟨hother, rfl⟩] at hlookup
  exact (Option.some.inj hlookup).symm

theorem find?_eq_some_of_key (hkey : S.KeyedBy key) {rows : List Row} (hrows : rows ⊆ t.rows)
    (hrow : row ∈ rows) : rows.find? (fun other => key other == key row) = some row := by
  have hexists : ∃ other ∈ rows, (key other == key row) = true := ⟨row, hrow, beq_self_eq_true _⟩
  obtain ⟨found, hfound⟩ := Option.isSome_iff_exists.mp (List.find?_isSome.mpr hexists)
  have hsame : (key found == key row) = true :=
    List.find?_some (p := fun other => key other == key row) hfound
  rw [hfound, eq_of_key hkey (hrows (mem_of_find?_eq_some hfound)) (hrows hrow)
    (beq_iff_eq.mp hsame)]

variable {data : Row → Row} {selects : Row → Bool}

theorem lookup_map (hrows : t'.rows = t.rows.map fun row => if selects row then data row else row)
    (hkeep : ∀ row, selects row → key (data row) = key row) :
    t'.lookup key k = (t.lookup key k).map fun row => if selects row then data row else row := by
  rw [lookup, findFirst, hrows, List.find?_map]
  congr 2
  funext row
  by_cases h : selects row = true
  · simp [h, hkeep row h]
  · simp [h]

theorem filter_map (hrows : t'.rows = t.rows.map fun row => if selects row then data row else row)
    (hkeep : ∀ row, selects row → key (data row) = key row) :
    t'.rows.filter (fun row => key row == k) =
      (t.rows.filter fun row => key row == k).map fun row =>
        if selects row then data row else row := by
  rw [hrows, List.filter_map]
  congr 2
  funext row
  by_cases h : selects row = true
  · simp [h, hkeep row h]
  · simp [h]

theorem lookup_append (hrows : t'.rows = t.rows ++ [row]) :
    t'.lookup key k = (t.lookup key k).or (if key row = k then some row else none) := by
  rw [lookup, lookup, findFirst, findFirst, hrows, List.find?_append]
  by_cases h : key row = k <;> simp [h]

theorem lookup_eq_none_of_append (hkey : S.KeyedBy key) (hrows : t'.rows = t.rows ++ [row]) :
    t.lookup key (key row) = none := by
  have hpairwise := t'.pairwise_key hkey
  rw [hrows, pairwise_append] at hpairwise
  exact lookup_eq_none.mpr fun other hother =>
    hpairwise.2.2 other hother row (mem_singleton_self row)

theorem updateMany_cases (t : Table S) (data : Row → Row) (selects : Row → Bool) :
    (∃ t' : Table S, t'.rows = t.rows.map (fun row => if selects row then data row else row) ∧
        t.updateMany data selects = .ok (t', t.rows.countP selects)) ∨
      (∃ row ∈ t.rows, selects row ∧ S.failedCheck (data row) ≠ none) ∨
      ∃ index, t.updateMany data selects = .error (.unique index) := by
  cases hresult : t.updateMany data selects with
  | ok result =>
    obtain ⟨hrows, hcount⟩ := updateMany_eq_ok.mp hresult
    exact .inl ⟨result.1, hrows, by rw [← hcount]⟩
  | error violation =>
    right
    cases violation with
    | unique index => exact .inr ⟨index, rfl⟩
    | check constraint =>
      obtain ⟨row, hrow, hselected, hfailed⟩ := updateMany_check hresult
      exact .inl ⟨row, hrow, hselected, by simp [hfailed]⟩

theorem updateMany_eq_self (data : Row → Row)
    (hnone : ∀ row ∈ t.rows, selects row = false) : t.updateMany data selects = .ok (t, 0) := by
  refine updateMany_eq_ok.mpr ⟨?_, ?_⟩
  · refine ((map_congr_left fun row hrow => ?_).trans (map_id _)).symm
    simp [hnone row hrow]
  · symm
    rw [countP_eq_zero]
    intro row hrow
    simp [hnone row hrow]

/-- **The keyed update rule.** An update of the row under an indexed key either
finds nothing to update and changes nothing, or updates that one row; it fails
on a check only when the updated row does. -/
theorem updateMany_key_cases (hkey : S.KeyedBy key) (t : Table S) (k : κ) (data : Row → Row)
    (selects : Row → Bool) :
    ((∀ row, t.lookup key k = some row → selects row = false) ∧
        t.updateMany data (fun row => key row == k && selects row) = .ok (t, 0)) ∨
      ∃ row, t.lookup key k = some row ∧ selects row ∧
        ((∃ t' : Table S, t'.rows = t.rows.map (fun row =>
              if key row == k && selects row then data row else row) ∧
            t.updateMany data (fun row => key row == k && selects row) = .ok (t', 1)) ∨
          S.failedCheck (data row) ≠ none ∨
          ∃ index, t.updateMany data (fun row => key row == k && selects row) =
            .error (.unique index)) := by
  by_cases hfound : ∃ row, t.lookup key k = some row ∧ selects row = true
  · right
    obtain ⟨row, hlookup, hselects⟩ := hfound
    obtain ⟨hmem, hrowkey⟩ := lookup_spec hlookup
    have honly : ∀ other ∈ t.rows, (key other == k && selects other) = true → other = row := by
      intro other hother hselected
      simp only [Bool.and_eq_true, beq_iff_eq] at hselected
      exact eq_of_key hkey hother hmem (hselected.1.trans hrowkey.symm)
    have hone : t.rows.countP (fun row => key row == k && selects row) = 1 := by
      refine countP_eq_one_of_pairwise ?_ hmem (by simp [hrowkey, hselects])
      refine (t.pairwise_key hkey).imp fun hne hboth => hne ?_
      simp only [Bool.and_eq_true, beq_iff_eq] at hboth
      rw [hboth.1.1, hboth.2.1]
    refine ⟨row, hlookup, hselects, ?_⟩
    rcases t.updateMany_cases data (fun row => key row == k && selects row) with
      ⟨t', hrows, hok⟩ | ⟨other, hother, hselected, hfailed⟩ | hunique
    · exact .inl ⟨t', hrows, by rw [hok, hone]⟩
    · exact .inr (.inl (honly other hother hselected ▸ hfailed))
    · exact .inr (.inr hunique)
  · left
    push Not at hfound
    have hnone : ∀ row ∈ t.rows, (key row == k && selects row) = false := by
      intro row hrow
      by_cases heq : key row = k
      · simp [heq, hfound row ((lookup_eq_some hkey).mpr ⟨hrow, heq⟩)]
      · simp [heq]
    exact ⟨fun row hrow => by simpa using hfound row hrow, updateMany_eq_self data hnone⟩

/-- An update that gives out no new key makes no two rows collide. -/
theorem updateMany_ne_unique_of_freesKeys (t : Table S)
    (hkeys : S.FreesKeys data) (selects : Row → Bool) (index : String) :
    t.updateMany data selects ≠ .error (.unique index) := by
  intro herror
  unfold updateMany at herror
  cases hrows : ofRows S (t.rows.map fun row => if selects row then data row else row) with
  | ok updated => simp [hrows, Bind.bind, Except.bind, Pure.pure, Except.pure] at herror
  | error violation =>
    have hviolation : violation = .unique index := by
      simpa [hrows, Bind.bind, Except.bind] using herror
    subst hviolation
    have hnone : S.firstCollision (t.rows.map fun row => if selects row then data row else row) =
        none := by
      rw [Schema.firstCollision_eq_none, pairwise_map]
      refine t.pairwise.imp fun {row other} hcompatible => ?_
      rw [Schema.collision_eq_none] at hcompatible ⊢
      intro test htest
      have hfree := hcompatible test htest
      have hleft : test.2 (if selects row then data row else row) other = false := by
        split
        · exact (hkeys test htest row other).1 hfree
        · exact hfree
      by_cases hother : selects other = true
      · rw [if_pos hother]
        exact (hkeys test htest other _).2 hleft
      · rw [if_neg hother]
        exact hleft
    have hfound := ofRows_eq_error.mp hrows
    rw [Schema.violation, hnone] at hfound
    cases hfailed : (t.rows.map fun row => if selects row then data row else row).findSome?
      S.failedCheck <;> simp [hfailed] at hfound

theorem updateMany_ne_unique (t : Table S) (hkeys : S.KeepsKeys data)
    (selects : Row → Bool) (index : String) :
    t.updateMany data selects ≠ .error (.unique index) :=
  t.updateMany_ne_unique_of_freesKeys hkeys.frees selects index

theorem updateMany_of_freesKeys (t : Table S) (hkeys : S.FreesKeys data) (selects : Row → Bool)
    (hchecked : ∀ row ∈ t.rows, selects row → S.failedCheck (data row) = none) :
    ∃ t' : Table S, t'.rows = t.rows.map (fun row => if selects row then data row else row) ∧
      t.updateMany data selects = .ok (t', t.rows.countP selects) := by
  rcases t.updateMany_cases data selects with hok | ⟨row, hrow, hselected, hfailed⟩ | hunique
  · exact hok
  · exact absurd (hchecked row hrow hselected) hfailed
  · obtain ⟨index, herror⟩ := hunique
    exact absurd herror (t.updateMany_ne_unique_of_freesKeys hkeys selects index)

theorem exists_collision_of_create {index : String}
    (h : t.create row = .error (.unique index)) : ∃ other ∈ t.rows, S.collision other row ≠ none := by
  by_contra hnone
  push Not at hnone
  have hcompatible : S.firstCollision (t.rows ++ [row]) = none := by
    rw [Schema.firstCollision_eq_none, pairwise_append]
    refine ⟨t.pairwise, pairwise_singleton _ _, fun other hother new hnew => ?_⟩
    rw [mem_singleton.mp hnew]
    exact hnone other hother
  have hfound := ofRows_eq_error.mp h
  rw [Schema.violation, hcompatible] at hfound
  cases hfailed : (t.rows ++ [row]).findSome? S.failedCheck <;> simp [hfailed] at hfound

/-- **The insert rule.** An insert appends its row, or the row fails a check,
or it collides. -/
theorem create_cases (t : Table S) (row : Row) :
    (∃ t' : Table S, t'.rows = t.rows ++ [row] ∧ t.create row = .ok t') ∨
      S.failedCheck row ≠ none ∨ ∃ index, t.create row = .error (.unique index) := by
  cases hresult : t.create row with
  | ok t' => exact .inl ⟨t', create_eq_ok.mp hresult, rfl⟩
  | error violation =>
    right
    cases violation with
    | unique index => exact .inr ⟨index, rfl⟩
    | check constraint =>
      have hfailed := create_check hresult
      exact .inl (by simp [hfailed])

private theorem createSkippingDuplicates_eq_append (hrows : t'.rows = t.rows ++ [row]) :
    t.createSkippingDuplicates row = .ok t' := by
  have hchecked : S.failedCheck row = none := t'.checked (by simp [hrows])
  have hcreate : t.create row = .ok t' := create_eq_ok.mpr hrows
  have hfree : (t.rows.any fun other => (S.collision other row).isSome) = false := by
    rw [any_eq_false]
    intro other hother
    simp [create_fresh hcreate hother]
  unfold createSkippingDuplicates
  split
  · next constraint hfailed => simp [hchecked] at hfailed
  · rw [hfree, if_neg Bool.false_ne_true]
    exact hcreate

theorem createSkippingDuplicates_eq_skip {other : Row}
    (hchecked : S.failedCheck row = none) (hother : other ∈ t.rows)
    (hcollides : S.collision other row ≠ none) : t.createSkippingDuplicates row = .ok t := by
  have hany : (t.rows.any fun other => (S.collision other row).isSome) = true :=
    any_eq_true.mpr ⟨other, hother, Option.isSome_iff_ne_none.mpr hcollides⟩
  unfold createSkippingDuplicates
  split
  · next constraint hfailed => simp [hchecked] at hfailed
  · rw [hany, if_pos rfl]

/-- An insert that skips duplicates changes nothing when an old row collides
with the new one, and is an insert otherwise. -/
theorem createSkippingDuplicates_cases (t : Table S) (row : Row) :
    ((∃ other ∈ t.rows, S.collision other row ≠ none) ∧
        t.createSkippingDuplicates row = .ok t) ∨
      (∃ t' : Table S, t'.rows = t.rows ++ [row] ∧
        t.createSkippingDuplicates row = .ok t') ∨
      S.failedCheck row ≠ none ∨
      ∃ index, t.createSkippingDuplicates row = .error (.unique index) := by
  unfold createSkippingDuplicates
  split
  · next constraint hfailed => exact .inr (.inr (.inl (by simp [hfailed])))
  · split
    · next hany =>
      obtain ⟨other, hother, hcollides⟩ := any_eq_true.mp hany
      exact .inl ⟨⟨other, hother, Option.isSome_iff_ne_none.mp hcollides⟩, rfl⟩
    · exact .inr (create_cases t row)

theorem rows_subset_of_createSkippingDuplicates (h : t.createSkippingDuplicates row = .ok t') :
    t.rows ⊆ t'.rows := by
  intro old hold
  rcases t.createSkippingDuplicates_cases row with
    ⟨-, hskip⟩ | ⟨t'', hrows, happend⟩ | hfailed | ⟨index, hunique⟩
  · rw [h] at hskip
    cases hskip
    exact hold
  · rw [h] at happend
    cases happend
    rw [hrows]
    exact mem_append_left _ hold
  · unfold createSkippingDuplicates at h
    split at h
    · cases h
    · next hchecked => exact absurd hchecked hfailed
  · rw [h] at hunique
    cases hunique

/-- There is room for a row: it passes the checks, and shares no key with an old one. -/
def HasRoom (t : Table S) (row : Row) : Prop :=
  S.failedCheck row = none ∧ ∀ other ∈ t.rows, S.collision other row = none

theorem createSkippingDuplicates_of_hasRoom (h : t.HasRoom row) :
    ∃ t' : Table S, t'.rows = t.rows ++ [row] ∧ t.createSkippingDuplicates row = .ok t' := by
  rcases t.createSkippingDuplicates_cases row with
    ⟨⟨other, hother, hcollides⟩, -⟩ | happended | hfailed | ⟨index, hunique⟩
  · exact absurd (h.2 other hother) hcollides
  · exact happended
  · exact absurd h.1 hfailed
  · rcases t.create_cases row with ⟨t', hrows, -⟩ | hfailed | ⟨index', hrefused⟩
    · exact ⟨t', hrows, createSkippingDuplicates_eq_append hrows⟩
    · exact absurd h.1 hfailed
    · obtain ⟨other, hother, hcollides⟩ := exists_collision_of_create hrefused
      exact absurd (h.2 other hother) hcollides

theorem createSkippingDuplicates_of_not_hasRoom (h : ¬ t.HasRoom row)
    (hresult : t.createSkippingDuplicates row = .ok t') : t' = t := by
  unfold createSkippingDuplicates at hresult
  split at hresult
  · cases hresult
  · next hchecked =>
    split at hresult
    · cases hresult
      rfl
    · have hrows := create_eq_ok.mp hresult
      exact absurd ⟨hchecked, fun other hother => create_fresh hresult hother⟩ h

end Table

end Relational
