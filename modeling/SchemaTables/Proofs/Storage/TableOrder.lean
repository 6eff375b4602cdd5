/-
  SchemaTables.Proofs.Storage.TableOrder
  ──────────────────────────────────────
  **THE ORDER OF THE TABLES.**

  The tables of the entities are laid out in the order of the entities
  (`layOut_entries`).  Storing an association then changes one table, the one
  that its link names, and puts it at the end if it is not there yet.  So the
  tables of a model stand in the order

      addNames (entities, in order) (tables of the links, in order)

  in which a name counts where it comes first (`build_keys`).
-/
import SchemaTables.Proofs.Storage.Build

namespace SchemaTables.Storage

/-! ## §1. Names, each where it comes first. -/

/-- The names and then those of `new` that are not there yet. -/
def addNames (names new : List String) : List String :=
  new.foldl (fun names n => if n ∈ names then names else names ++ [n]) names

theorem addNames_cons (names : List String) (n : String)
    (new : List String) :
    addNames names (n :: new) =
      addNames (if n ∈ names then names else names ++ [n]) new :=
  rfl

theorem addNames_append (names new new' : List String) :
    addNames names (new ++ new') = addNames (addNames names new) new' :=
  List.foldl_append

/-- The names that were there stay in front. -/
theorem addNames_eq_append (new : List String) :
    ∀ names, ∃ more, addNames names new = names ++ more := by
  induction new with
  | nil => exact fun names => ⟨[], (List.append_nil names).symm⟩
  | cons n new ih =>
      intro names
      rw [addNames_cons]
      split
      · exact ih names
      · obtain ⟨more, hmore⟩ := ih (names ++ [n])
        exact ⟨n :: more, by rw [hmore, List.append_assoc]; rfl⟩

/-- Names that are all there change nothing. -/
theorem addNames_of_subset {new : List String} :
    ∀ {names : List String}, (∀ n ∈ new, n ∈ names) →
      addNames names new = names := by
  induction new with
  | nil => exact fun _ => rfl
  | cons n new ih =>
      intro names h
      rw [addNames_cons, if_pos (h n List.mem_cons_self)]
      exact ih fun j hj => h j (List.mem_cons_of_mem _ hj)

/-- A name that is not added may stand anywhere among those in front. -/
theorem addNames_insert {k : String} {new : List String} (hk : k ∉ new) :
    ∀ {before after more : List String},
      addNames (before ++ after) new = before ++ more →
      addNames (before ++ k :: after) new = before ++ k :: more := by
  induction new with
  | nil =>
      intro before after more h
      exact congrArg (fun l => before ++ k :: l) (List.append_cancel_left h)
  | cons n new ih =>
      obtain ⟨hnk, hk⟩ := not_or.mp (mt List.mem_cons.mpr hk)
      intro before after more h
      have hmem : n ∈ before ++ k :: after ↔ n ∈ before ++ after := by
        simp [Ne.symm hnk]
      rw [addNames_cons] at h ⊢
      simp only [hmem]
      by_cases hn : n ∈ before ++ after
      · rw [if_pos hn] at h ⊢
        exact ih hk h
      · rw [if_neg hn] at h ⊢
        rw [List.append_assoc] at h ⊢
        exact ih hk h

/-! ## §2. The layout. -/

section Layout

variable {s : Schema} {d : Draft}

/-- A layout has the tables of the entities, in their order. -/
theorem layOut_entries (h : layOut s = .ok d) :
    List.Forall₂ (fun e p => p.1 = tableName e ∧ IsEntityTable e p.2)
      s.toList d.tables.entries := by
  apply foldlM_invariant (fun done (d : Draft) => List.Forall₂
    (fun e p => p.1 = tableName e ∧ IsEntityTable e p.2) done
      d.tables.entries) _ _ h
  · exact .nil
  · intro done e d d' _ hdone hlay
    unfold layEntity at hlay
    rw [bind_eq_ok] at hlay
    obtain ⟨t, ht, hlay⟩ := hlay
    obtain ⟨hfree, rfl⟩ := addEntityTable_eq_ok hlay
    have htable := entityTable_spec ht
    show List.Forall₂ _ (done ++ [e]) (d.tables.insert t.name t).entries
    rw [OrderedMap.entries_insert_of_fresh hfree]
    exact List.rel_append hdone (.cons ⟨htable.name, htable⟩ .nil)

theorem layOut_keys (h : layOut s = .ok d) :
    d.tables.keys = s.toList.map tableName := by
  have hnames :
      List.Forall₂ (· = ·) (s.toList.map tableName) d.tables.keys := by
    unfold OrderedMap.keys
    rw [List.forall₂_map_left_iff, List.forall₂_map_right_iff]
    exact (layOut_entries h).imp fun e p hp => hp.1.symm
  rw [List.forall₂_eq_eq_eq] at hnames
  exact hnames.symm

end Layout

/-! ## §3. The run. -/

/-- A step puts the table of its link into its place. -/
theorem Linked.keys {s : Schema} {d d' : Draft} {e : Entity} {f : Field}
    {kind : Association} {l : Link} (h : Linked s d e f kind d' l)
    (hd : d.Sound) : d'.tables.keys = addNames d.tables.keys [l.table] := by
  cases h with
  | belongsTo => exact OrderedMap.keys_insert _ _ _
  | has => exact OrderedMap.keys_insert _ _ _
  | belongsToMany hkey htarget _ htable hone hother =>
      obtain ⟨-, -, -, hname, -⟩ := hd.addJoinColumns (hd.isKeyOf hkey)
        (hd.isKeyOf htarget) htable hone hother
      show (d.tables.insert _ _).keys = addNames _ [_]
      rw [← hname]
      exact OrderedMap.keys_insert _ _ _

/-- The tables of a model: those of the entities, in their order, then the
others in the order in which associations are stored in them. -/
theorem build_keys {s : Schema} {m : Model} (h : build s = .ok m) :
    m.tables.keys = addNames (s.toList.map tableName)
      (m.relations.map fun r => r.link.table) := by
  obtain ⟨d, rels, hrun, rfl⟩ := build_eq_ok h
  refine (linkAll_invariant_from
    (fun _ d rels => d.tables.keys = addNames (s.toList.map tableName)
      (rels.map fun r => r.link.table))
    (fun d₀ hlay => layOut_keys hlay) ?_ hrun).2
  intro done a d rels d' l _ hrunning hkeys hlink
  rw [hlink.keys hrunning.sound, hkeys, List.map_append, addNames_append]
  rfl

end SchemaTables.Storage
