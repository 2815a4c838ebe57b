import ContentAutomation.Library.Table

/-!
# Tables under open transactions

Several transactions insert into one table under the isolation level READ
COMMITTED. A transaction sees the committed rows and its own; a row that another
one has inserted and not yet committed is invisible to it, but it holds its keys:
an insert that meets such a key waits until the other transaction has ended.
-/

namespace Relational

open List

variable {Row ι : Type*} {S : Schema Row} [DecidableEq ι]

/-- The rows that one writer has inserted and not yet committed. -/
def ownRows (pending : List (ι × Row)) (writer : ι) : List Row :=
  (pending.filter fun entry => entry.1 = writer).map Prod.snd

/-- A table together with the rows of open transactions. What any one
transaction sees is a table, and no two transactions hold one key. -/
structure OpenTable (S : Schema Row) (ι : Type*) [DecidableEq ι] where
  /-- The rows that everyone sees. -/
  committed : Table S
  /-- Inserted rows that only their writer sees. -/
  pending : List (ι × Row)
  /-- What a transaction sees violates no constraint. -/
  valid : ∀ writer, S.violation (committed.rows ++ ownRows pending writer) = none
  /-- Rows of different open transactions do not collide. -/
  apart : ∀ entry ∈ pending, ∀ other ∈ pending, entry.1 ≠ other.1 →
    S.collision entry.2 other.2 = none

/-- What comes of an insert that skips duplicates. -/
inductive Insertion (S : Schema Row) (ι : Type*) [DecidableEq ι]
  /-- The statement is over: the row is there, or another one holds its key. -/
  | done (table : OpenTable S ι)
  /-- An open transaction holds the key. -/
  | waits
  /-- The row fails a check. -/
  | refused (violation : Violation)

theorem mem_ownRows {pending : List (ι × Row)} {writer : ι} {row : Row} :
    row ∈ ownRows pending writer ↔ (writer, row) ∈ pending := by
  simp [ownRows]

variable (pending : List (ι × Row))

private theorem ownRows_append_self (writer : ι) (row : Row) :
    ownRows (pending ++ [(writer, row)]) writer = ownRows pending writer ++ [row] := by
  simp [ownRows, filter_append]

private theorem ownRows_append_of_ne {writer other : ι} (hne : other ≠ writer)
    (row : Row) : ownRows (pending ++ [(other, row)]) writer = ownRows pending writer := by
  simp [ownRows, filter_append, hne]

theorem ownRows_drop_self (writer : ι) :
    ownRows (pending.filter fun entry => entry.1 ≠ writer) writer = [] := by
  simp [ownRows, filter_filter]

theorem ownRows_drop_of_ne {writer other : ι} (hne : other ≠ writer) :
    ownRows (pending.filter fun entry => entry.1 ≠ other) writer = ownRows pending writer := by
  simp only [ownRows, filter_filter]
  congr 2
  funext entry
  by_cases heq : entry.1 = writer
  · simp [heq, hne.symm]
  · simp [heq]

namespace OpenTable

variable {table table' : OpenTable S ι} {writer other : ι} {row : Row}

theorem apart_nil {ι : Type*} : ∀ entry ∈ ([] : List (ι × Row)), ∀ other ∈ ([] : List (ι × Row)),
    entry.1 ≠ other.1 → S.collision entry.2 other.2 = none := by
  simp

/-- A table that no open transaction has written to. -/
def start (committed : Table S) (ι : Type*) [DecidableEq ι] : OpenTable S ι where
  committed := committed
  pending := []
  valid := fun _ => by simpa [ownRows] using committed.valid
  apart := apart_nil

/-- The uncommitted rows of a writer. -/
def own (table : OpenTable S ι) (writer : ι) : List Row := ownRows table.pending writer

/-- The table that a transaction sees. -/
def visible (table : OpenTable S ι) (writer : ι) : Table S :=
  ⟨table.committed.rows ++ table.own writer, table.valid writer⟩

/-- Two rows that some index identifies. -/
def collides (S : Schema Row) (row other : Row) : Bool :=
  (S.collision row other).isSome || (S.collision other row).isSome

/-- Another open transaction holds a key of the row. -/
def held (table : OpenTable S ι) (writer : ι) (row : Row) : Bool :=
  table.pending.any fun entry => entry.1 ≠ writer && collides S entry.2 row

/-- The table after a row that collides with nothing has been inserted. -/
def insert (table : OpenTable S ι) (writer : ι) (row : Row) (hchecked : S.failedCheck row = none)
    (hvisible : ∀ other ∈ (table.visible writer).rows, S.collision other row = none)
    (hheld : table.held writer row = false) : OpenTable S ι where
  committed := table.committed
  pending := table.pending ++ [(writer, row)]
  valid := by
    intro reader
    by_cases heq : writer = reader
    · subst heq
      have hvalid := Schema.violation_eq_none.mp (table.valid writer)
      rw [ownRows_append_self, ← append_assoc, Schema.violation_eq_none]
      constructor
      · intro new hnew
        rcases mem_append.mp hnew with hold | hrow
        · exact hvalid.1 new hold
        · rw [mem_singleton.mp hrow]
          exact hchecked
      · rw [pairwise_append]
        refine ⟨hvalid.2, pairwise_singleton _ _, fun old hold new hnew => ?_⟩
        rw [mem_singleton.mp hnew]
        exact hvisible old hold
    · rw [ownRows_append_of_ne _ heq]
      exact table.valid reader
  apart := by
    have hfree : ∀ entry ∈ table.pending, entry.1 ≠ writer →
        S.collision entry.2 row = none ∧ S.collision row entry.2 = none := by
      intro entry hentry hne
      have hany := any_eq_false.mp hheld entry hentry
      simpa [collides, hne] using hany
    intro entry hentry entry' hentry' hne
    simp only [mem_append, mem_singleton] at hentry hentry'
    rcases hentry with hold | rfl
    · rcases hentry' with hold' | rfl
      · exact table.apart entry hold entry' hold' hne
      · exact (hfree entry hold hne).1
    · rcases hentry' with hold' | rfl
      · exact (hfree entry' hold' hne.symm).2
      · exact absurd rfl hne

/-- `INSERT … ON CONFLICT DO NOTHING`: skipped when a row that the transaction
sees holds a key of the new one, and made to wait when an open transaction does. -/
def insertSkippingDuplicates (table : OpenTable S ι) (writer : ι) (row : Row) : Insertion S ι :=
  match hchecked : S.failedCheck row with
  | some constraint => .refused (.check constraint)
  | none =>
    if hvisible : ∀ other ∈ (table.visible writer).rows, S.collision other row = none then
      if hheld : table.held writer row = false then
        .done (table.insert writer row hchecked hvisible hheld)
      else .waits
    else .done table

/-- `INSERT`: refused when a row that the transaction sees holds a key of the new one,
and made to wait when an open transaction does. -/
def insertRow (table : OpenTable S ι) (writer : ι) (row : Row) : Insertion S ι :=
  match hchecked : S.failedCheck row with
  | some constraint => .refused (.check constraint)
  | none =>
    match hvisible : (table.visible writer).rows.findSome? (S.collision · row) with
    | some index => .refused (.unique index)
    | none =>
      if hheld : table.held writer row = false then
        .done (table.insert writer row hchecked (List.findSome?_eq_none_iff.mp hvisible) hheld)
      else .waits

/-- The rows of a transaction become visible to everyone. -/
def commit (table : OpenTable S ι) (writer : ι) : OpenTable S ι where
  committed := table.visible writer
  pending := table.pending.filter fun entry => entry.1 ≠ writer
  valid := by
    intro reader
    by_cases heq : writer = reader
    · subst heq
      rw [ownRows_drop_self, append_nil]
      exact table.valid writer
    · rw [ownRows_drop_of_ne _ heq]
      have hwriter := Schema.violation_eq_none.mp (table.valid writer)
      have hreader := Schema.violation_eq_none.mp (table.valid reader)
      rw [pairwise_append] at hreader
      refine Schema.violation_eq_none.mpr ⟨fun row hrow => ?_, ?_⟩
      · rcases mem_append.mp hrow with hold | hown
        · exact hwriter.1 row hold
        · exact hreader.1 row (mem_append_right _ hown)
      · refine pairwise_append.mpr ⟨hwriter.2, hreader.2.2.1, fun row hrow other hother => ?_⟩
        rcases mem_append.mp hrow with hold | hown
        · exact hreader.2.2.2 row hold other hother
        · exact table.apart _ (mem_ownRows.mp hown) _ (mem_ownRows.mp hother) heq
  apart := by
    intro entry hentry entry' hentry' hne
    exact table.apart entry (mem_filter.mp hentry).1 entry' (mem_filter.mp hentry').1 hne

/-- The rows of a transaction are gone. -/
def rollBack (table : OpenTable S ι) (writer : ι) : OpenTable S ι where
  committed := table.committed
  pending := table.pending.filter fun entry => entry.1 ≠ writer
  valid := by
    intro reader
    by_cases heq : writer = reader
    · subst heq
      rw [ownRows_drop_self, append_nil]
      exact table.committed.valid
    · rw [ownRows_drop_of_ne _ heq]
      exact table.valid reader
  apart := by
    intro entry hentry entry' hentry' hne
    exact table.apart entry (mem_filter.mp hentry).1 entry' (mem_filter.mp hentry').1 hne

/-- `DELETE`, as its commit makes it visible: the selected committed rows are gone. -/
def deleteRows (table : OpenTable S ι) (selects : Row → Bool) : OpenTable S ι where
  committed := ⟨table.committed.rows.filter fun row => !selects row,
    Schema.violation_of_sublist filter_sublist table.committed.valid⟩
  pending := table.pending
  valid := fun reader => Schema.violation_of_sublist
    (filter_sublist.append (List.Sublist.refl _)) (table.valid reader)
  apart := table.apart

@[simp] theorem start_committed (committed : Table S) : (start committed ι).committed = committed :=
  rfl

@[simp] theorem deleteRows_rows (selects : Row → Bool) :
    (table.deleteRows selects).committed.rows =
      table.committed.rows.filter fun row => !selects row := rfl

@[simp] theorem deleteRows_own (selects : Row → Bool) :
    (table.deleteRows selects).own writer = table.own writer := rfl

@[simp] theorem start_own (committed : Table S) : (start committed ι).own writer = [] := rfl

@[simp] theorem visible_rows :
    (table.visible writer).rows = table.committed.rows ++ table.own writer := rfl

@[simp] theorem commit_committed : (table.commit writer).committed = table.visible writer := rfl

@[simp] theorem rollBack_committed : (table.rollBack writer).committed = table.committed := rfl

@[simp] theorem commit_own_self : (table.commit writer).own writer = [] :=
  ownRows_drop_self _ _

theorem commit_own_of_ne (hne : other ≠ writer) :
    (table.commit other).own writer = table.own writer := ownRows_drop_of_ne _ hne

@[simp] theorem rollBack_own_self : (table.rollBack writer).own writer = [] :=
  ownRows_drop_self _ _

theorem rollBack_own_of_ne (hne : other ≠ writer) :
    (table.rollBack other).own writer = table.own writer := ownRows_drop_of_ne _ hne

/-- Under an indexed key, rows of two open transactions differ. -/
theorem key_ne_of_open {κ : Type*} {key : Row → κ} (hkey : S.KeyedBy key) {other' : Row}
    (hne : writer ≠ other) (hrow : row ∈ table.own writer) (hother : other' ∈ table.own other) :
    key row ≠ key other' := fun heq =>
  hkey.collision_ne_none heq (table.apart _ (mem_ownRows.mp hrow) _ (mem_ownRows.mp hother) hne)

/-- Under an indexed key, a row of an open transaction differs from every committed one. -/
theorem key_ne_of_committed {κ : Type*} {key : Row → κ} (hkey : S.KeyedBy key) {other' : Row}
    (hrow : row ∈ table.committed.rows) (hother : other' ∈ table.own writer) :
    key row ≠ key other' := by
  have hpairwise := (table.visible writer).pairwise_key hkey
  rw [visible_rows, pairwise_append] at hpairwise
  exact hpairwise.2.2 row hrow other' hother

/-- **The insert rule under open transactions.** A row that passes its checks is
skipped because the transaction sees a row with one of its keys, is inserted, or
has to wait for an open transaction that holds one of its keys. -/
theorem insertSkippingDuplicates_cases (table : OpenTable S ι) (writer : ι)
    (hchecked : S.failedCheck row = none) :
    ((∃ other ∈ (table.visible writer).rows, S.collision other row ≠ none) ∧
        table.insertSkippingDuplicates writer row = .done table) ∨
      (∃ table' : OpenTable S ι, table.insertSkippingDuplicates writer row = .done table' ∧
        table'.committed = table.committed ∧ table'.own writer = table.own writer ++ [row] ∧
        ∀ other, other ≠ writer → table'.own other = table.own other) ∨
      (∃ other entry, other ≠ writer ∧ entry ∈ table.own other ∧ collides S entry row = true) ∧
        table.insertSkippingDuplicates writer row = .waits := by
  unfold insertSkippingDuplicates
  split
  · next constraint hfailed =>
    rw [hchecked] at hfailed
    cases hfailed
  · split
    · split
      · next hchecked hvisible hheld =>
        right; left
        refine ⟨_, rfl, rfl, ownRows_append_self _ _ _, fun other hne => ?_⟩
        exact ownRows_append_of_ne _ (Ne.symm hne) _
      · next hheld =>
        right; right
        obtain ⟨entry, hentry, hcollides⟩ := any_eq_true.mp (Bool.not_eq_false _ ▸ hheld)
        simp only [Bool.and_eq_true, decide_eq_true_eq] at hcollides
        exact ⟨⟨entry.1, entry.2, hcollides.1, mem_ownRows.mpr hentry, hcollides.2⟩, rfl⟩
    · next hvisible =>
      left
      push Not at hvisible
      exact ⟨hvisible, rfl⟩

theorem of_insertSkippingDuplicates_done (hchecked : S.failedCheck row = none)
    (hdone : table.insertSkippingDuplicates writer row = .done table') :
    (table' = table ∧ ∃ other ∈ (table.visible writer).rows, S.collision other row ≠ none) ∨
      (table'.committed = table.committed ∧ table'.own writer = table.own writer ++ [row] ∧
        ∀ other, other ≠ writer → table'.own other = table.own other) := by
  rcases table.insertSkippingDuplicates_cases writer hchecked with
    ⟨hcollides, hskip⟩ | ⟨inserted, hinserted, hrows⟩ | ⟨-, hwaits⟩
  · rw [hskip] at hdone
    exact Or.inl ⟨(Insertion.done.inj hdone).symm, hcollides⟩
  · rw [hinserted] at hdone
    rw [← Insertion.done.inj hdone]
    exact Or.inr hrows
  · rw [hwaits] at hdone
    cases hdone

theorem of_insertRow_done (hdone : table.insertRow writer row = .done table') :
    table'.committed = table.committed ∧ table'.own writer = table.own writer ++ [row] ∧
      ∀ other, other ≠ writer → table'.own other = table.own other := by
  unfold insertRow at hdone
  split at hdone
  · cases hdone
  · split at hdone
    · cases hdone
    · split at hdone
      · rw [← Insertion.done.inj hdone]
        exact ⟨rfl, ownRows_append_self _ _ _, fun other hne =>
          ownRows_append_of_ne _ (Ne.symm hne) _⟩
      · cases hdone

theorem insertRow_ne_refused (hchecked : S.failedCheck row = none)
    (hfree : ∀ other ∈ (table.visible writer).rows, S.collision other row = none)
    (violation : Violation) : table.insertRow writer row ≠ .refused violation := by
  intro hrefused
  unfold insertRow at hrefused
  split at hrefused
  · next constraint hfailed =>
    rw [hchecked] at hfailed
    cases hfailed
  · split at hrefused
    · next index hfound =>
      obtain ⟨other, hother, hcollides⟩ := exists_of_findSome?_eq_some hfound
      rw [hfree other hother] at hcollides
      cases hcollides
    · split at hrefused <;> cases hrefused

theorem insertSkippingDuplicates_ne_refused (hchecked : S.failedCheck row = none)
    (violation : Violation) : table.insertSkippingDuplicates writer row ≠ .refused violation := by
  intro hrefused
  rcases table.insertSkippingDuplicates_cases writer hchecked with
    ⟨-, hskip⟩ | ⟨inserted, hinserted, -⟩ | ⟨-, hwaits⟩
  · rw [hskip] at hrefused
    cases hrefused
  · rw [hinserted] at hrefused
    cases hrefused
  · rw [hwaits] at hrefused
    cases hrefused

end OpenTable

end Relational
