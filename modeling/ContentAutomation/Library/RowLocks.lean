import ContentAutomation.Library.Isolation

/-!
# Rows under open updates

Several transactions update rows of one table under the isolation level READ COMMITTED.
An update finds its row by a key, and locks it until its transaction has ended: another
update of the row waits, and then applies to the version that it finds. A reader sees the
committed version of a row, or the version that it has written itself.
-/

namespace Relational

open List

variable {Row κ ι : Type*} {S : Schema Row} {key : Row → κ} [DecidableEq κ] [DecidableEq ι]

/-- The version of a row among some versions, the latest first, or the row itself. -/
def currentVersion (key : Row → κ) (versions : List Row) (row : Row) : Row :=
  (versions.find? fun version => key version == key row).getD row

/-- The rows in the given versions. -/
def overlay (key : Row → κ) (versions rows : List Row) : List Row :=
  rows.map (currentVersion key versions)

/-- A table together with the versions of its rows that open transactions have written. What
any one transaction sees is a table, and no two transactions hold one row or one key. -/
structure LockedTable (S : Schema Row) (key : Row → κ) (ι : Type*) [DecidableEq ι] where
  /-- The rows that everyone sees. -/
  committed : Table S
  /-- Versions that only their writer sees, latest first. -/
  versions : List (ι × Row)
  /-- What a transaction sees violates no constraint. -/
  valid : ∀ writer, S.violation (overlay key (ownRows versions writer) committed.rows) = none
  /-- A row is updated by one open transaction at a time. -/
  locked : ∀ entry ∈ versions, ∀ other ∈ versions, key entry.2 = key other.2 → entry.1 = other.1
  /-- Versions of different open transactions do not collide. -/
  apart : ∀ entry ∈ versions, ∀ other ∈ versions, entry.1 ≠ other.1 →
    S.collision entry.2 other.2 = none

/-- What comes of the update of one row. -/
inductive RowUpdate (S : Schema Row) (key : Row → κ) (ι : Type*) [DecidableEq ι]
  /-- The statement is over, and has returned the new version. -/
  | done (row : Row) (table : LockedTable S key ι)
  | notFound
  /-- An open transaction holds the row, or a key of its new version. -/
  | waits
  | refused (violation : Violation)

@[simp] theorem currentVersion_nil (row : Row) : currentVersion key [] row = row := rfl

@[simp] theorem overlay_nil (rows : List Row) : overlay key [] rows = rows :=
  map_id rows

variable (key) in
private theorem key_currentVersion (versions : List Row) (row : Row) :
    key (currentVersion key versions row) = key row := by
  unfold currentVersion
  cases hfind : versions.find? fun version => key version == key row with
  | none => rfl
  | some version => simpa using List.find?_some hfind

variable (key) in
private theorem currentVersion_cases (versions : List Row) (row : Row) :
    currentVersion key versions row ∈ versions ∨
      currentVersion key versions row = row ∧ ∀ version ∈ versions, key version ≠ key row := by
  unfold currentVersion
  cases hfind : versions.find? fun version => key version == key row with
  | none => exact Or.inr ⟨rfl, by simpa using hfind⟩
  | some version => exact Or.inl (mem_of_find?_eq_some hfind)

theorem currentVersion_singleton (version row : Row) :
    currentVersion key [version] row = if key version = key row then version else row := by
  unfold currentVersion
  by_cases heq : key version = key row <;> simp [heq]

private theorem currentVersion_cons (version : Row) (versions : List Row) (row : Row) :
    currentVersion key (version :: versions) row =
      if key version = key row then version else currentVersion key versions row := by
  unfold currentVersion
  by_cases heq : key version = key row <;> simp [heq]

private theorem currentVersion_of_mem {versions later : List Row} {row : Row}
    (h : currentVersion key later row ∈ later) :
    currentVersion key later (currentVersion key versions row) = currentVersion key later row := by
  unfold currentVersion at h ⊢
  have hkey := key_currentVersion key versions row
  unfold currentVersion at hkey
  rw [hkey]
  cases hfind : later.find? fun version => key version == key row with
  | some version => rfl
  | none =>
    rw [hfind] at h
    exact absurd (by simp) (List.find?_eq_none.mp hfind row h)

private theorem currentVersion_of_ne {versions later : List Row} {row : Row}
    (h : ∀ version ∈ later, key version ≠ key row) :
    currentVersion key later (currentVersion key versions row) = currentVersion key versions row := by
  rcases currentVersion_cases key later (currentVersion key versions row) with
    hmem | ⟨heq, -⟩
  · exact absurd ((key_currentVersion key _ _).trans (key_currentVersion key _ _)) (h _ hmem)
  · exact heq

namespace LockedTable

variable {table : LockedTable S key ι} {writer other : ι} {row : Row} {k : κ}

/-- A table that no open transaction has written to. -/
def start (committed : Table S) (key : Row → κ) (ι : Type*) [DecidableEq ι] :
    LockedTable S key ι where
  committed := committed
  versions := []
  valid := fun _ => by simpa [ownRows] using committed.valid
  locked := by simp
  apart := OpenTable.apart_nil

/-- The versions of a writer. -/
def own (table : LockedTable S key ι) (writer : ι) : List Row := ownRows table.versions writer

/-- The table that a transaction sees. -/
def visible (table : LockedTable S key ι) (writer : ι) : Table S :=
  ⟨overlay key (table.own writer) table.committed.rows, table.valid writer⟩

/-- Another open transaction has updated the row under a key. -/
def lockedFor (table : LockedTable S key ι) (writer : ι) (k : κ) : Bool :=
  table.versions.any fun entry => entry.1 ≠ writer && key entry.2 == k

/-- Another open transaction has written or replaced a version that collides with the row. -/
def held (table : LockedTable S key ι) (writer : ι) (row : Row) : Bool :=
  table.versions.any fun entry => entry.1 ≠ writer &&
    (OpenTable.collides S entry.2 row ||
      (table.committed.lookup key (key entry.2)).any fun old => OpenTable.collides S old row)

/-- The table after an update that nothing stands against. -/
def write (table : LockedTable S key ι) (writer : ι) (row : Row)
    (hlocked : table.lockedFor writer (key row) = false) (hheld : table.held writer row = false)
    (hvalid : S.violation (overlay key (row :: table.own writer) table.committed.rows) = none) :
    LockedTable S key ι where
  committed := table.committed
  versions := (writer, row) :: table.versions
  valid := by
    intro reader
    by_cases heq : writer = reader
    · subst heq
      simpa [ownRows, own] using hvalid
    · have hreader := table.valid reader
      simpa [ownRows, heq] using hreader
  locked := by
    have hfree : ∀ entry ∈ table.versions, entry.1 ≠ writer → key entry.2 ≠ key row := by
      intro entry hentry hne
      simpa [hne] using any_eq_false.mp hlocked entry hentry
    intro entry hentry entry' hentry' hkey
    rcases mem_cons.mp hentry with rfl | hold <;> rcases mem_cons.mp hentry' with rfl | hold'
    · rfl
    · by_contra hne
      exact hfree entry' hold' (Ne.symm hne) hkey.symm
    · by_contra hne
      exact hfree entry hold hne hkey
    · exact table.locked entry hold entry' hold' hkey
  apart := by
    have hfree : ∀ entry ∈ table.versions, entry.1 ≠ writer →
        S.collision entry.2 row = none ∧ S.collision row entry.2 = none := by
      intro entry hentry hne
      have hany := any_eq_false.mp hheld entry hentry
      simp only [ne_eq, hne, not_false_eq_true, decide_true, Bool.true_and, Bool.or_eq_true,
        not_or, OpenTable.collides] at hany
      simpa using hany.1
    intro entry hentry entry' hentry' hne
    rcases mem_cons.mp hentry with rfl | hold <;> rcases mem_cons.mp hentry' with rfl | hold'
    · exact absurd rfl hne
    · exact (hfree entry' hold' hne.symm).2
    · exact (hfree entry hold hne).1
    · exact table.apart entry hold entry' hold' hne

/-- `UPDATE … WHERE key = k RETURNING *`: it waits for the transaction that has updated the
row, and then computes the new version from the one that it finds. -/
def update (table : LockedTable S key ι) (writer : ι) (k : κ) (data : Row → Row) :
    RowUpdate S key ι :=
  match (table.visible writer).lookup key k with
  | none => .notFound
  | some row =>
    if hlocked : table.lockedFor writer (key (data row)) = false then
      match S.failedCheck (data row) with
      | some constraint => .refused (.check constraint)
      | none =>
        if hheld : table.held writer (data row) = false then
          match hvalid : S.violation (overlay key (data row :: table.own writer)
              table.committed.rows) with
          | some violation => .refused violation
          | none => .done (data row) (table.write writer (data row) hlocked hheld hvalid)
        else .waits
    else .waits

/-- The versions of a transaction become visible to everyone. -/
def commit (table : LockedTable S key ι) (writer : ι) : LockedTable S key ι where
  committed := table.visible writer
  versions := table.versions.filter fun entry => entry.1 ≠ writer
  valid := by
    intro reader
    by_cases heq : writer = reader
    · subst heq
      rw [ownRows_drop_self, overlay_nil]
      exact table.valid writer
    · rw [ownRows_drop_of_ne _ heq]
      have hwriter := Schema.violation_eq_none.mp (table.valid writer)
      have hreader := Schema.violation_eq_none.mp (table.valid reader)
      simp only [visible, overlay, map_map, own] at hwriter hreader ⊢
      refine Schema.violation_eq_none.mpr ⟨fun row hrow => ?_, ?_⟩
      · obtain ⟨old, hold, rfl⟩ := mem_map.mp hrow
        rcases currentVersion_cases key (ownRows table.versions reader) old with
          hmem | ⟨-, hnone⟩
        · simp only [Function.comp_apply, currentVersion_of_mem hmem]
          exact hreader.1 _ (mem_map_of_mem hold)
        · simp only [Function.comp_apply, currentVersion_of_ne hnone]
          exact hwriter.1 _ (mem_map_of_mem hold)
      · rw [pairwise_map] at hwriter hreader ⊢
        refine hwriter.2.imp₂ (fun row row' hw hr => ?_) hreader.2
        simp only [Function.comp_apply]
        -- a row in a version of the reader and one in a version of the writer are apart
        rcases currentVersion_cases key (ownRows table.versions reader) row with
          hmem | ⟨hsame, hnone⟩ <;>
        rcases currentVersion_cases key (ownRows table.versions reader) row' with
          hmem' | ⟨hsame', hnone'⟩
        · rw [currentVersion_of_mem hmem, currentVersion_of_mem hmem']
          exact hr
        · rw [currentVersion_of_mem hmem, currentVersion_of_ne hnone']
          rcases currentVersion_cases key (ownRows table.versions writer) row' with
            hmem'' | ⟨hsame'', -⟩
          · exact table.apart _ (mem_ownRows.mp hmem) _ (mem_ownRows.mp hmem'') (Ne.symm heq)
          · rw [hsame'', ← hsame']
            exact hr
        · rw [currentVersion_of_ne hnone, currentVersion_of_mem hmem']
          rcases currentVersion_cases key (ownRows table.versions writer) row with
            hmem'' | ⟨hsame'', -⟩
          · exact table.apart _ (mem_ownRows.mp hmem'') _ (mem_ownRows.mp hmem') heq
          · rw [hsame'', ← hsame]
            exact hr
        · rw [currentVersion_of_ne hnone, currentVersion_of_ne hnone']
          exact hw
  locked := by
    intro entry hentry entry' hentry' hkey
    exact table.locked entry (mem_filter.mp hentry).1 entry' (mem_filter.mp hentry').1 hkey
  apart := by
    intro entry hentry entry' hentry' hne
    exact table.apart entry (mem_filter.mp hentry).1 entry' (mem_filter.mp hentry').1 hne

/-- The versions of a transaction are gone, and its locks are released. -/
def rollBack (table : LockedTable S key ι) (writer : ι) : LockedTable S key ι where
  committed := table.committed
  versions := table.versions.filter fun entry => entry.1 ≠ writer
  valid := by
    intro reader
    by_cases heq : writer = reader
    · subst heq
      rw [ownRows_drop_self, overlay_nil]
      exact table.committed.valid
    · rw [ownRows_drop_of_ne _ heq]
      exact table.valid reader
  locked := by
    intro entry hentry entry' hentry' hkey
    exact table.locked entry (mem_filter.mp hentry).1 entry' (mem_filter.mp hentry').1 hkey
  apart := by
    intro entry hentry entry' hentry' hne
    exact table.apart entry (mem_filter.mp hentry).1 entry' (mem_filter.mp hentry').1 hne

/-- `DELETE`, as its commit makes it visible: the selected committed rows are gone. -/
def deleteRows (table : LockedTable S key ι) (selects : Row → Bool) : LockedTable S key ι where
  committed := ⟨table.committed.rows.filter fun row => !selects row,
    Schema.violation_of_sublist filter_sublist table.committed.valid⟩
  versions := table.versions
  valid := fun reader => Schema.violation_of_sublist (filter_sublist.map _)
    (table.valid reader)
  locked := table.locked
  apart := table.apart

@[simp] theorem start_committed (committed : Table S) :
    (start committed key ι).committed = committed := rfl

@[simp] theorem start_own (committed : Table S) : (start committed key ι).own writer = [] := rfl

@[simp] theorem commit_committed : (table.commit writer).committed = table.visible writer := rfl

@[simp] theorem rollBack_committed : (table.rollBack writer).committed = table.committed := rfl

@[simp] theorem commit_own_self : (table.commit writer).own writer = [] :=
  ownRows_drop_self _ _

theorem commit_own_of_ne (hne : other ≠ writer) :
    (table.commit other).own writer = table.own writer := ownRows_drop_of_ne _ hne

@[simp] theorem rollBack_own_self : (table.rollBack writer).own writer = [] :=
  ownRows_drop_self _ _

theorem rollBack_own_of_ne (hne : other ≠ writer) :
    (table.rollBack other).own writer = table.own writer := ownRows_drop_of_ne _ hne

theorem visible_lookup (table : LockedTable S key ι) (writer : ι) (k : κ) :
    (table.visible writer).lookup key k =
      (table.committed.lookup key k).map (currentVersion key (table.own writer)) := by
  unfold visible overlay Table.lookup Table.findFirst
  rw [List.find?_map]
  congr 2
  funext row
  simp [key_currentVersion]

theorem key_ne_of_own (hne : writer ≠ other) {row' : Row} (hrow : row ∈ table.own writer)
    (hother : row' ∈ table.own other) : key row ≠ key row' := by
  intro heq
  exact hne (table.locked _ (mem_ownRows.mp hrow) _ (mem_ownRows.mp hother) heq)

/-- **The update rule.** An update that is over has found the row as its transaction sees it,
and its new version is the transaction's own. -/
theorem of_update_done {data : Row → Row} {row' : Row} {table' : LockedTable S key ι}
    (hdone : table.update writer k data = .done row' table') :
    ∃ row, (table.visible writer).lookup key k = some row ∧ row' = data row ∧
      table'.committed = table.committed ∧ table'.own writer = row' :: table.own writer ∧
      (∀ other, other ≠ writer → table'.own other = table.own other) ∧
      table.lockedFor writer (key row') = false := by
  unfold update at hdone
  split at hdone
  · cases hdone
  · next row hlookup =>
    split at hdone
    · next hlocked =>
      split at hdone
      · cases hdone
      · split at hdone
        · split at hdone
          · cases hdone
          · cases hdone
            refine ⟨row, hlookup, rfl, rfl, ?_, fun other hne => ?_, hlocked⟩
            · simp [write, own, ownRows]
            · simp [write, own, ownRows, Ne.symm hne]
        · cases hdone
    · cases hdone

/-- An update that keeps the keys, and whose new version passes the checks, is not refused. -/
theorem update_ne_refused (hkey : S.KeyedBy key) {data : Row → Row} (hkeys : S.KeepsKeys data)
    (hsame : ∀ row, key (data row) = key row)
    (hchecked : ∀ row, (table.visible writer).lookup key k = some row →
      S.failedCheck (data row) = none) (violation : Violation) :
    table.update writer k data ≠ .refused violation := by
  intro hrefused
  unfold update at hrefused
  split at hrefused
  · cases hrefused
  · next row hlookup =>
    split at hrefused
    · split at hrefused
      · next constraint hfailed =>
        rw [hchecked row hlookup] at hfailed
        cases hfailed
      · split at hrefused
        · split at hrefused
          · next violation' hviolation =>
            -- the rows that the update would leave are those of a table
            obtain ⟨hmem, hrow⟩ := Table.lookup_spec hlookup
            obtain ⟨updated, hrows, -⟩ := (table.visible writer).updateMany_of_freesKeys
              hkeys.frees (fun other => key other == k) (by
                intro other hother hselected
                have heq := Table.eq_of_key hkey hother hmem
                  ((beq_iff_eq.mp hselected).trans hrow.symm)
                rw [heq]
                exact hchecked row hlookup)
            have hoverlay : overlay key (data row :: table.own writer) table.committed.rows =
                updated.rows := by
              rw [hrows]
              simp only [visible, overlay, map_map]
              refine map_congr_left fun old hold => ?_
              have hversion := key_currentVersion key (table.own writer) old
              rw [Function.comp_apply, currentVersion_cons, hsame, hrow, hversion]
              by_cases heq : key old = k
              · have hfound : currentVersion key (table.own writer) old = row :=
                  Table.eq_of_key hkey (mem_map_of_mem hold) hmem
                    (hversion.trans (heq.trans hrow.symm))
                rw [if_pos heq.symm, if_pos (beq_iff_eq.mpr heq), hfound]
              · rw [if_neg (Ne.symm heq), if_neg (by simpa using heq)]
            rw [hoverlay, updated.valid] at hviolation
            cases hviolation
          · cases hrefused
        · cases hrefused
    · cases hrefused

end LockedTable

end Relational
