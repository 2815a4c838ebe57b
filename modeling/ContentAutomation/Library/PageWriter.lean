import ContentAutomation.Library.Table

/-!
# Writing a page of items

A page of items is written into a table, item by item: an item whose key has a row updates that
row, and any other inserts a row of its own. Which keys have rows is looked up once, before the
first item, so a row that the page itself inserts is not found again. Such a page is written
exactly if no two of its items insert a row under one key.
-/

namespace Relational

open List

/-- How the items of a page are written into a table. -/
structure PageWriter {Row : Type} (S : Schema Row) (Item κ ι : Type) where
  /-- The key of an item. -/
  key : Item → κ
  /-- The key of a row, if the row is in the scope of the page. -/
  rowKey : Row → Option κ
  /-- The identifier of a row. -/
  rowId : Row → ι
  /-- The row with the data of an item. -/
  data : Item → Row → Row
  /-- The row that an item inserts. -/
  row : Item → Row
  /-- The item passes the checks of the table. -/
  passes : Item → Prop
  collides : ∀ first second k, rowKey first = some k → rowKey second = some k →
    S.collision first second ≠ none
  keyed : S.KeyedBy rowId
  keepsKeys : ∀ item, S.KeepsKeys (data item)
  rowKey_data : ∀ item old, rowKey (data item old) = rowKey old
  rowId_data : ∀ item old, rowId (data item old) = rowId old
  rowKey_row : ∀ item, rowKey (row item) = some (key item)
  data_data : ∀ item old, data item (data item old) = data item old
  data_row : ∀ item, data item (row item) = row item
  checked_data : ∀ item old, rowKey old = some (key item) →
    (S.failedCheck (data item old) = none ↔ passes item)
  checked_row : ∀ item, S.failedCheck (row item) = none ↔ passes item

namespace PageWriter

variable {Row Item κ ι : Type} {S : Schema Row} (w : PageWriter S Item κ ι)

/-- The items that insert a row, where some keys have one. -/
def inserted (stored : κ → Option Row) (items : List Item) : List Item :=
  items.filter fun item => (stored (w.key item)).isNone

/-- The items that update a row. -/
def updated (stored : κ → Option Row) (items : List Item) : List Item :=
  items.filter fun item => (stored (w.key item)).isSome

/-- The rows that are inserted share no more than their key with others. -/
structure Fresh (t : Table S) (items : List Item) : Prop where
  stored : ∀ old ∈ t.rows, ∀ item ∈ items, w.rowKey old ≠ some (w.key item) →
    S.collision old (w.row item) = none
  other : items.Pairwise fun item later => w.key item ≠ w.key later →
    S.collision (w.row item) (w.row later) = none

/-- What is looked up is a row of the table. -/
def Finds (stored : κ → Option Row) (t : Table S) : Prop :=
  ∀ k found, stored k = some found →
    ∃ old ∈ t.rows, w.rowId old = w.rowId found ∧ w.rowKey old = some k

variable {w} {stored : κ → Option Row} {items : List Item} {item : Item} {t t' : Table S}

/-! ### Inserting -/

theorem Fresh.insert (h : w.Fresh t (item :: items)) (hrows : t'.rows = t.rows ++ [w.row item]) :
    w.Fresh t' items where
  stored row hrow later hlater hne := by
    rw [hrows, mem_append, mem_singleton] at hrow
    rcases hrow with hold | rfl
    · exact h.stored row hold later (mem_cons_of_mem _ hlater) hne
    · refine (pairwise_cons.mp h.other).1 later hlater fun hsame => hne ?_
      rw [w.rowKey_row, hsame]
  other := (pairwise_cons.mp h.other).2

theorem Finds.insert {row : Row} (h : w.Finds stored t) (hrows : t'.rows = t.rows ++ [row]) :
    w.Finds stored t' := by
  intro k found hfound
  obtain ⟨old, hold, hsame⟩ := h k found hfound
  refine ⟨old, ?_, hsame⟩
  rw [hrows]
  exact mem_append_left _ hold

theorem of_create (h : t.create (w.row item) = .ok t') : w.passes item ∧
    (∀ old ∈ t.rows, w.rowKey old ≠ some (w.key item)) ∧ t'.rows = t.rows ++ [w.row item] := by
  have hrows := Table.create_eq_ok.mp h
  refine ⟨(w.checked_row item).mp (t'.checked ?_), fun old hold hkey => ?_, hrows⟩
  · rw [hrows]
    exact mem_append_right _ (mem_singleton_self _)
  · exact w.collides _ _ _ hkey (w.rowKey_row item) (Table.create_fresh h hold)

private theorem exists_create (hfresh : w.Fresh t (item :: items)) (hpasses : w.passes item)
    (hnew : ∀ old ∈ t.rows, w.rowKey old ≠ some (w.key item)) :
    ∃ t', t.create (w.row item) = .ok t' := by
  rcases t.create_cases (w.row item) with ⟨t', -, hcreate⟩ | hfailed | ⟨index, hrefused⟩
  · exact ⟨t', hcreate⟩
  · exact absurd ((w.checked_row item).mpr hpasses) hfailed
  · obtain ⟨old, hold, hcollides⟩ := Table.exists_collision_of_create hrefused
    exact absurd (hfresh.stored old hold item mem_cons_self (hnew old hold)) hcollides

theorem inserted_cons_of_some {found : Row} (hfound : stored (w.key item) = some found) :
    w.inserted stored (item :: items) = w.inserted stored items :=
  filter_cons_of_neg (by simp [hfound])

theorem inserted_cons_of_none (hfound : stored (w.key item) = none) :
    w.inserted stored (item :: items) = item :: w.inserted stored items :=
  filter_cons_of_pos (by simp [hfound])

theorem updated_cons_of_some {found : Row} (hfound : stored (w.key item) = some found) :
    w.updated stored (item :: items) = item :: w.updated stored items :=
  filter_cons_of_pos (by simp [hfound])

theorem updated_cons_of_none (hfound : stored (w.key item) = none) :
    w.updated stored (item :: items) = w.updated stored items :=
  filter_cons_of_neg (by simp [hfound])

theorem length_inserted_add_updated (stored : κ → Option Row) (items : List Item) :
    (w.inserted stored items).length + (w.updated stored items).length = items.length := by
  unfold inserted updated
  have hsplit := length_eq_length_filter_add (l := items)
    fun item => (stored (w.key item)).isNone
  simp only [Option.not_isNone] at hsplit
  exact hsplit.symm

/-! ### Writing -/

section Write

variable [DecidableEq ι]

variable (w) in
/-- Write a page, where some keys have a row. -/
def write (stored : κ → Option Row) : List Item → Table S → Except Violation (Table S)
  | [], t => .ok t
  | item :: items, t =>
    match stored (w.key item) with
    | some found => do
      let (t', _) ← t.updateMany (w.data item) fun row => w.rowId row == w.rowId found
      write stored items t'
    | none => do
      let t' ← t.create (w.row item)
      write stored items t'

theorem write_cons_of_some {found : Row} (hfound : stored (w.key item) = some found) :
    w.write stored (item :: items) t = .ok t' ↔ ∃ t₁ count,
      t.updateMany (w.data item) (fun row => w.rowId row == w.rowId found) = .ok (t₁, count) ∧
        w.write stored items t₁ = .ok t' := by
  rw [write, hfound]
  dsimp only
  cases t.updateMany (w.data item) fun row => w.rowId row == w.rowId found with
  | error violation => simp [Bind.bind, Except.bind]
  | ok result => simp [Bind.bind, Except.bind, Prod.ext_iff]

theorem write_cons_of_none (hfound : stored (w.key item) = none) :
    w.write stored (item :: items) t = .ok t' ↔ ∃ t₁, t.create (w.row item) = .ok t₁ ∧
      w.write stored items t₁ = .ok t' := by
  rw [write, hfound]
  cases t.create (w.row item) with
  | error violation => simp [Bind.bind, Except.bind]
  | ok result => simp [Bind.bind, Except.bind]

end Write

/-! ### Rows after a page -/

section Latest

variable [DecidableEq κ]

variable (w) in
/-- A row after an item. -/
def rewrite (old : Row) (item : Item) : Row :=
  if w.rowKey old = some (w.key item) then w.data item old else old

variable (w) in
/-- A row after a page. -/
def latest (items : List Item) (old : Row) : Row := items.foldl w.rewrite old

theorem keeps_latest {τ : Type} (part : Row → τ)
    (hpart : ∀ item old, part (w.data item old) = part old) (items : List Item) (old : Row) :
    part (w.latest items old) = part old := by
  induction items generalizing old with
  | nil => rfl
  | cons item items ih =>
    refine (ih _).trans ?_
    unfold rewrite
    split
    · exact hpart item old
    · rfl

private theorem keeps_rewrite {τ : Type} (part : Row → τ)
    (hpart : ∀ item old, part (w.data item old) = part old) (old : Row) (item : Item) :
    part (w.rewrite old item) = part old := keeps_latest part hpart [item] old

private theorem latest_of_ne {old : Row} (h : ∀ item ∈ items, w.rowKey old ≠ some (w.key item)) :
    w.latest items old = old := by
  induction items with
  | nil => rfl
  | cons item items ih =>
    have hsame : w.rewrite old item = old := if_neg (h item mem_cons_self)
    unfold latest at ih ⊢
    rw [foldl_cons, hsame]
    exact ih fun later hlater => h later (mem_cons_of_mem _ hlater)

private theorem data_latest {before after : List Item} {old : Row}
    (hkey : w.rowKey old = some (w.key item)) (hlast : ∀ later ∈ after, w.key later ≠ w.key item) :
    w.data item (w.latest (before ++ item :: after) old) =
      w.latest (before ++ item :: after) old := by
  have hbefore : w.rowKey (w.latest before old) = some (w.key item) :=
    (keeps_latest w.rowKey w.rowKey_data before old).trans hkey
  have heq : w.latest (before ++ item :: after) old = w.data item (w.latest before old) := by
    have hitem : w.rewrite (w.latest before old) item = w.data item (w.latest before old) :=
      if_pos hbefore
    unfold latest at hitem ⊢
    rw [foldl_append, foldl_cons, hitem]
    refine latest_of_ne (w := w) fun later hlater hsame => hlast later hlater ?_
    rw [w.rowKey_data] at hsame
    exact Option.some.inj (hsame.symm.trans hbefore)
  rw [heq, w.data_data]

private theorem pairwise_rowKey (t : Table S) (k : κ) :
    t.rows.Pairwise fun row other =>
      ¬ (decide (w.rowKey row = some k) = true ∧ decide (w.rowKey other = some k) = true) := by
  refine t.pairwise.imp fun hnone hboth => ?_
  rw [decide_eq_true_eq, decide_eq_true_eq] at hboth
  exact w.collides _ _ k hboth.1 hboth.2 hnone

private theorem eq_of_rowKey {row other : Row} {k : κ} (hrow : row ∈ t.rows)
    (hother : other ∈ t.rows)
    (hkey : w.rowKey row = some k) (hkey' : w.rowKey other = some k) : row = other := by
  have hfirst := find?_eq_some_of_pairwise (pairwise_rowKey t k) hrow (decide_eq_true hkey)
  have hsecond := find?_eq_some_of_pairwise (pairwise_rowKey t k) hother (decide_eq_true hkey')
  exact Option.some.inj (hfirst.symm.trans hsecond)

private theorem collision_rewrite {old other : Row} (item : Item)
    (h : S.collision old other = none) :
    S.collision (w.rewrite old item) other = none := by
  unfold rewrite
  split
  · rw [Schema.collision_eq_none] at h ⊢
    intro index hindex
    rw [(w.keepsKeys item index hindex old other).1]
    exact h index hindex
  · exact h

theorem Fresh.rewrite (h : w.Fresh t (item :: items))
    (hrows : t'.rows = t.rows.map fun old => w.rewrite old item) : w.Fresh t' items where
  stored row hrow later hlater hne := by
    rw [hrows] at hrow
    obtain ⟨old, hold, rfl⟩ := mem_map.mp hrow
    rw [keeps_rewrite w.rowKey w.rowKey_data] at hne
    exact collision_rewrite item (h.stored old hold later (mem_cons_of_mem _ hlater) hne)
  other := (pairwise_cons.mp h.other).2

/-- What is looked up is still found where the rows have the data of an item. -/
theorem Finds.rewrite (h : w.Finds stored t)
    (hrows : t'.rows = t.rows.map fun old => w.rewrite old item) : w.Finds stored t' := by
  intro k found hfound
  obtain ⟨old, hold, hid, hkey⟩ := h k found hfound
  refine ⟨w.rewrite old item, ?_, ?_, ?_⟩
  · rw [hrows]
    exact mem_map_of_mem hold
  · rw [keeps_rewrite w.rowId w.rowId_data, hid]
  · rw [keeps_rewrite w.rowKey w.rowKey_data, hkey]

/-! ### Pages that are written -/

variable [DecidableEq ι]

/-- The update of an item rewrites the rows, if the item passes the checks. -/
theorem updateMany_eq_ok_iff {found : Row} {count : ℕ} (hfinds : w.Finds stored t)
    (hfound : stored (w.key item) = some found) :
    t.updateMany (w.data item) (fun row => w.rowId row == w.rowId found) = .ok (t', count) ↔
      w.passes item ∧ t'.rows = t.rows.map (fun old => w.rewrite old item) ∧ count = 1 := by
  obtain ⟨old, hold, hid, hkey⟩ := hfinds _ _ hfound
  have hselects : ∀ row ∈ t.rows, ((w.rowId row == w.rowId found) = true ↔
      w.rowKey row = some (w.key item)) := by
    intro row hrow
    rw [beq_iff_eq, ← hid]
    constructor
    · intro hsame
      rw [Table.eq_of_key w.keyed hrow hold hsame, hkey]
    · intro hsame
      rw [eq_of_rowKey hrow hold hsame hkey]
  have hmap : (t.rows.map fun row => if w.rowId row == w.rowId found then w.data item row else row) =
      t.rows.map fun old => w.rewrite old item := by
    refine map_congr_left fun row hrow => ?_
    unfold PageWriter.rewrite
    by_cases hsame : w.rowKey row = some (w.key item)
    · rw [if_pos hsame, if_pos ((hselects row hrow).mpr hsame)]
    · rw [if_neg hsame, if_neg fun hselected => hsame ((hselects row hrow).mp hselected)]
  have hcount : t.rows.countP (fun row => w.rowId row == w.rowId found) = 1 := by
    refine countP_eq_one_of_pairwise ?_ hold (by rw [beq_iff_eq, hid])
    refine (t.pairwise_key w.keyed).imp fun hne hboth => hne ?_
    simp only [beq_iff_eq] at hboth
    exact hboth.1.trans hboth.2.symm
  rw [Table.updateMany_eq_ok, hmap, hcount]
  refine ⟨fun h => ⟨?_, h⟩, fun h => h.2⟩
  -- the row with the data of the item is one of the table, which has accepted it
  refine (w.checked_data item old hkey).mp (t'.checked ?_)
  rw [h.1]
  refine mem_map.mpr ⟨old, hold, ?_⟩
  exact if_pos hkey

private theorem exists_updateMany {found : Row} (hfinds : w.Finds stored t)
    (hfound : stored (w.key item) = some found) (hpasses : w.passes item) :
    ∃ t', t.updateMany (w.data item) (fun row => w.rowId row == w.rowId found) = .ok (t', 1) := by
  obtain ⟨old, hold, hid, hkey⟩ := hfinds _ _ hfound
  obtain ⟨t', -, hupdate⟩ := t.updateMany_of_freesKeys (w.keepsKeys item).frees
    (fun row => w.rowId row == w.rowId found) (by
      intro row hrow hselected
      rw [beq_iff_eq, ← hid] at hselected
      rw [Table.eq_of_key w.keyed hrow hold hselected]
      exact (w.checked_data item old hkey).mpr hpasses)
  have hcount := ((updateMany_eq_ok_iff hfinds hfound).mp hupdate).2.2
  exact ⟨t', by rw [hupdate, hcount]⟩

/-- **What a page writes.** Its items have passed the checks, those that insert a row are about
different keys without a row, and the rows are the old ones with their latest data and the
inserted ones. -/
theorem of_write (hfinds : w.Finds stored t) (h : w.write stored items t = .ok t') :
    (∀ item ∈ items, w.passes item) ∧ ((w.inserted stored items).map w.key).Nodup ∧
      (∀ item ∈ w.inserted stored items, ∀ old ∈ t.rows, w.rowKey old ≠ some (w.key item)) ∧
      t'.rows = t.rows.map (w.latest items) ++ (w.inserted stored items).map w.row := by
  induction items generalizing t with
  | nil =>
    have heq : t = t' := Except.ok.inj h
    subst heq
    have hid : t.rows.map (w.latest []) = t.rows := map_id _
    exact ⟨fun _ hmem => (not_mem_nil hmem).elim, nodup_nil,
      fun _ hmem => (not_mem_nil hmem).elim, by rw [hid]; exact (append_nil _).symm⟩
  | cons item items ih =>
    rw [forall_mem_cons]
    cases hfound : stored (w.key item) with
    | some found =>
      obtain ⟨t₁, count, hupdate, hwrite⟩ := (write_cons_of_some hfound).mp h
      obtain ⟨hpasses, hrows, -⟩ := (updateMany_eq_ok_iff hfinds hfound).mp hupdate
      obtain ⟨hall, hnodup, hnew, hrows'⟩ := ih (hfinds.rewrite hrows) hwrite
      rw [inserted_cons_of_some hfound]
      refine ⟨⟨hpasses, hall⟩, hnodup, fun later hlater old hold => ?_, ?_⟩
      · rw [← keeps_rewrite w.rowKey w.rowKey_data old item]
        refine hnew later hlater _ ?_
        rw [hrows]
        exact mem_map_of_mem hold
      · rw [hrows', hrows, map_map]
        rfl
    | none =>
      obtain ⟨t₁, hcreate, hwrite⟩ := (write_cons_of_none hfound).mp h
      obtain ⟨hpasses, hnew, hrows⟩ := of_create hcreate
      obtain ⟨hall, hnodup, hlater, hrows'⟩ := ih (hfinds.insert hrows) hwrite
      rw [inserted_cons_of_none hfound, map_cons, nodup_cons, forall_mem_cons]
      have hother : w.key item ∉ (w.inserted stored items).map w.key := by
        intro hmem
        obtain ⟨later, hmem, hsame⟩ := mem_map.mp hmem
        refine hlater later hmem (w.row item) ?_ ?_
        · rw [hrows]
          exact mem_append_right _ (mem_singleton_self _)
        · rw [w.rowKey_row, hsame]
      refine ⟨⟨hpasses, hall⟩, ⟨hother, hnodup⟩, ⟨hnew, fun later hmem old hold => ?_⟩, ?_⟩
      · refine hlater later hmem old ?_
        rw [hrows]
        exact mem_append_left _ hold
      · -- neither is an old row about the item, nor a later item about the row that is inserted
        have hold : t.rows.map (w.latest (item :: items)) = t.rows.map (w.latest items) :=
          map_congr_left fun old hold => by
            unfold latest
            rw [foldl_cons, show w.rewrite old item = old from if_neg (hnew old hold)]
        have hrow : w.latest items (w.row item) = w.row item := by
          refine latest_of_ne fun later hlater hsame => hother ?_
          rw [w.rowKey_row] at hsame
          have hkey := Option.some.inj hsame
          rw [hkey]
          refine mem_map_of_mem (mem_filter.mpr ⟨hlater, ?_⟩)
          rw [← hkey, hfound]
          rfl
        rw [hrows', hrows, map_append, hold, map_singleton, hrow, append_assoc]
        rfl

/-- A page is written where its items pass the checks, and those that insert a row are about
different keys without a row. -/
theorem exists_write (hfresh : w.Fresh t items) (hfinds : w.Finds stored t)
    (hpasses : ∀ item ∈ items, w.passes item) (hnodup : ((w.inserted stored items).map w.key).Nodup)
    (hnew : ∀ item ∈ w.inserted stored items, ∀ old ∈ t.rows, w.rowKey old ≠ some (w.key item)) :
    ∃ t', w.write stored items t = .ok t' := by
  induction items generalizing t with
  | nil => exact ⟨t, rfl⟩
  | cons item items ih =>
    obtain ⟨hitem, hall⟩ := forall_mem_cons.mp hpasses
    cases hfound : stored (w.key item) with
    | some found =>
      obtain ⟨t₁, hupdate⟩ := exists_updateMany hfinds hfound hitem
      have hrows := ((updateMany_eq_ok_iff hfinds hfound).mp hupdate).2.1
      rw [inserted_cons_of_some hfound] at hnodup hnew
      obtain ⟨t', hwrite⟩ := ih (hfresh.rewrite hrows) (hfinds.rewrite hrows) hall hnodup (by
        intro later hlater row hrow
        rw [hrows] at hrow
        obtain ⟨old, hold, rfl⟩ := mem_map.mp hrow
        rw [keeps_rewrite w.rowKey w.rowKey_data]
        exact hnew later hlater old hold)
      exact ⟨t', (write_cons_of_some hfound).mpr ⟨t₁, 1, hupdate, hwrite⟩⟩
    | none =>
      rw [inserted_cons_of_none hfound] at hnodup hnew
      rw [map_cons, nodup_cons] at hnodup
      rw [forall_mem_cons] at hnew
      obtain ⟨t₁, hcreate⟩ := exists_create hfresh hitem hnew.1
      obtain ⟨-, -, hrows⟩ := of_create hcreate
      obtain ⟨t', hwrite⟩ := ih (hfresh.insert hrows) (hfinds.insert hrows) hall hnodup.2 (by
        intro later hlater row hrow
        rw [hrows, mem_append, mem_singleton] at hrow
        rcases hrow with hold | rfl
        · exact hnew.2 later hlater row hold
        · intro hsame
          rw [w.rowKey_row] at hsame
          exact hnodup.1 (Option.some.inj hsame ▸ mem_map_of_mem hlater))
      exact ⟨t', (write_cons_of_none hfound).mpr ⟨t₁, hcreate, hwrite⟩⟩

/-! ### Upserts -/

variable (w) in
/-- The keys of a page are those that have a row, where they were looked up in the table. -/
def LooksUp (stored : κ → Option Row) (items : List Item) (t : Table S) : Prop :=
  ∀ item ∈ w.inserted stored items, ∀ old ∈ t.rows, w.rowKey old ≠ some (w.key item)

/-- **When a page is written**: exactly where its items pass the checks, and no two of those that
insert a row have one key. -/
theorem exists_write_iff (hfresh : w.Fresh t items) (hfinds : w.Finds stored t)
    (hlooked : w.LooksUp stored items t) : (∃ t', w.write stored items t = .ok t') ↔
      (∀ item ∈ items, w.passes item) ∧ ((w.inserted stored items).map w.key).Nodup := by
  constructor
  · rintro ⟨t', hwrite⟩
    obtain ⟨hpasses, hnodup, -, -⟩ := of_write hfinds hwrite
    exact ⟨hpasses, hnodup⟩
  · rintro ⟨hpasses, hnodup⟩
    exact exists_write hfresh hfinds hpasses hnodup hlooked

variable (w) in
/-- A page is an upsert: each of its keys has one row, which holds the data of the last item under
the key, and every old row is there with what the page keeps of it. -/
structure Upserted (items : List Item) (t t' : Table S) : Prop where
  one : ∀ item ∈ items, t'.rows.countP (fun row => decide (w.rowKey row = some (w.key item))) = 1
  last : ∀ before item after, items = before ++ item :: after →
    (∀ later ∈ after, w.key later ≠ w.key item) →
      ∃ row ∈ t'.rows, w.rowKey row = some (w.key item) ∧ w.data item row = row
  kept : ∀ old ∈ t.rows, w.latest items old ∈ t'.rows

/-- **A page that is written is an upsert.** -/
theorem upserted_of_write (hfinds : w.Finds stored t) (h : w.write stored items t = .ok t') :
    w.Upserted items t t' := by
  obtain ⟨-, -, -, hrows⟩ := of_write hfinds h
  have hkept : ∀ old ∈ t.rows, w.latest items old ∈ t'.rows := by
    intro old hold
    rw [hrows]
    exact mem_append_left _ (mem_map_of_mem hold)
  -- an item has updated a row, or has inserted one
  have hitem : ∀ item ∈ items,
      (∃ old ∈ t.rows, w.rowKey old = some (w.key item)) ∨ w.row item ∈ t'.rows := by
    intro item hmem
    cases hfound : stored (w.key item) with
    | some found =>
      obtain ⟨old, hold, -, hkey⟩ := hfinds _ _ hfound
      exact Or.inl ⟨old, hold, hkey⟩
    | none =>
      refine Or.inr ?_
      rw [hrows]
      refine mem_append_right _ (mem_map_of_mem (mem_filter.mpr ⟨hmem, ?_⟩))
      rw [hfound]
      rfl
  refine ⟨fun item hmem => ?_, ?_, hkept⟩
  · obtain ⟨row, hrow, hkey⟩ : ∃ row ∈ t'.rows, w.rowKey row = some (w.key item) := by
      rcases hitem item hmem with ⟨old, hold, hkey⟩ | hrow
      · exact ⟨_, hkept old hold, (keeps_latest w.rowKey w.rowKey_data items old).trans hkey⟩
      · exact ⟨_, hrow, w.rowKey_row item⟩
    exact countP_eq_one_of_pairwise (pairwise_rowKey t' _) hrow (decide_eq_true hkey)
  · rintro before item after rfl hafter
    rcases hitem item (mem_append_right _ mem_cons_self) with ⟨old, hold, hkey⟩ | hrow
    · exact ⟨_, hkept old hold, (keeps_latest w.rowKey w.rowKey_data _ old).trans hkey,
        data_latest hkey hafter⟩
    · exact ⟨_, hrow, w.rowKey_row item, w.data_row item⟩

end Latest

end PageWriter

end Relational
