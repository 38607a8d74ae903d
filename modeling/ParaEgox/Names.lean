import ParaEgox.Disk

/-!
# Names — which names a directory may have

Where every change of a directory is of a known name and leads to a file of a known kind, so is everything a stopped machine
leaves, whichever of the changes had reached the disk.
-/
namespace Disk
namespace Directory

variable {κ : Type} [DecidableEq κ]

/-! ## A name the change is not about -/

variable {k source target name : κ}

theorem outcomes_rename_of_ne (hs : k ≠ source) (ht : k ≠ target) (i : Nat) (d : Directory κ) :
    (d.rename source target i).outcomes k = d.outcomes k := by
  simp [outcomes, rename, Change.sets, hs, ht]

theorem outcomes_rename_source (h : source ≠ target) (i : Nat) (d : Directory κ) :
    (d.rename source target i).outcomes source = d.outcomes source ++ [none] := by
  simp [outcomes, rename, Change.sets, h, List.filterMap_append]

theorem lookup_rename_source (h : source ≠ target) (i : Nat) (d : Directory κ) :
    (d.rename source target i).lookup source = none := by
  simp [lookup_eq, rename, Change.sets, h, List.filterMap_append]

theorem Safe.rename_of_ne {P : File → Prop} {d : Directory κ} (h : d.Safe k P) (hs : k ≠ source)
    (ht : k ≠ target) (i : Nat) : (d.rename source target i).Safe k P := by
  intro o ho
  rw [outcomes_rename_of_ne hs ht] at ho
  exact h o ho

theorem lookup_unlink_self (name : κ) (d : Directory κ) : (d.unlink name).lookup name = none := by
  simp [lookup_eq, unlink, Change.sets, List.filterMap_append]

theorem lookup_unlink_of_ne (h : k ≠ name) (d : Directory κ) : (d.unlink name).lookup k = d.lookup k := by
  simp [lookup_eq, unlink, Change.sets, List.filterMap_append, h]

theorem outcomes_unlink_self (name : κ) (d : Directory κ) : (d.unlink name).outcomes name = d.outcomes name ++ [none] := by
  simp [outcomes, unlink, Change.sets, List.filterMap_append]

theorem outcomes_create_self (name : κ) (uid mode : Nat) (d : Directory κ) :
    (d.create name uid mode).outcomes name = d.outcomes name ++ [some d.files.length] := by
  simp [outcomes, create, Change.sets, List.filterMap_append]

/-! ## No name twice -/

theorem nodup_apply (c : Change κ) {entries : List (κ × Nat)} (h : (Assoc.keys entries).Nodup) :
    (Assoc.keys (c.apply entries)).Nodup := by
  have happend : ∀ {name : κ} {inode : Nat} {es : List (κ × Nat)}, (Assoc.keys es).Nodup →
      (Assoc.keys (Assoc.erase name es ++ [(name, inode)])).Nodup := by
    intro name inode es hes
    rw [Assoc.keys_append, List.nodup_append]
    refine ⟨hes.sublist (Assoc.keys_erase_sublist name es), List.nodup_singleton _, fun a ha b hb hab => ?_⟩
    rw [hab, List.mem_singleton.1 hb] at ha
    exact Assoc.notMem_keys_erase name es ha
  cases c with
  | link name inode => exact happend h
  | unlink name => exact h.sublist (Assoc.keys_erase_sublist name entries)
  | rename source target inode => exact happend (h.sublist (Assoc.keys_erase_sublist source entries))

theorem nodup_applyAll : ∀ (changes : List (Change κ)) {entries : List (κ × Nat)}, (Assoc.keys entries).Nodup →
    (Assoc.keys (applyAll changes entries)).Nodup
  | [], _, h => h
  | c :: changes, _, h => nodup_applyAll changes (nodup_apply c h)

/-! ## Known names that lead to known files -/

structure Tidy (known : κ → Prop) (Q : File → Prop) (d : Directory κ) : Prop where
  leads : ∀ k i, some i ∈ d.outcomes k → known k ∧ ∃ f, d.files[i]? = some f ∧ Q f
  nodup : (Assoc.keys d.stable).Nodup

variable {known known' : κ → Prop} {Q : File → Prop} {d : Directory κ}

theorem Tidy.mono (h : d.Tidy known Q) (hknown : ∀ k i, some i ∈ d.outcomes k → known k → known' k) : d.Tidy known' Q where
  leads k i hi := ⟨hknown k i hi (h.leads k i hi).1, (h.leads k i hi).2⟩
  nodup := h.nodup

theorem Tidy.visible_nodup (h : d.Tidy known Q) : (Assoc.keys d.visible).Nodup := nodup_applyAll d.pending h.nodup

theorem Tidy.listed (h : d.Tidy known Q) (hk : k ∈ Assoc.keys d.visible) :
    known k ∧ ∃ i f, d.lookup k = some i ∧ d.files[i]? = some f ∧ Q f := by
  cases hlookup : d.lookup k with
  | none => exact absurd hk (Assoc.get_eq_none.1 hlookup)
  | some i =>
    obtain ⟨hknown, f, hf, hq⟩ := h.leads k i (hlookup ▸ lookup_mem_outcomes k d)
    exact ⟨hknown, i, f, rfl, hf, hq⟩

theorem Tidy.create {uid mode : Nat} (h : d.Tidy known Q) (hname : known name)
    (hq : Q ⟨[], uid, mode, mode, false⟩) : (d.create name uid mode).Tidy known Q where
  leads k i hi := by
    have hold : ∀ j, some j ∈ d.outcomes k → known k ∧ ∃ f, (d.create name uid mode).files[j]? = some f ∧ Q f := by
      intro j hj
      obtain ⟨hknown, f, hf, hqf⟩ := h.leads k j hj
      exact ⟨hknown, f, by rw [Directory.create, List.getElem?_append_left (List.getElem?_eq_some_iff.1 hf).1, hf], hqf⟩
    by_cases hk : k = name
    · subst hk
      rw [outcomes_create_self, List.mem_append, List.mem_singleton] at hi
      rcases hi with hi | hi
      · exact hold i hi
      · refine ⟨hname, _, ?_, hq⟩
        rw [Option.some.inj hi]
        simp [Directory.create]
    · rw [outcomes_create hk] at hi
      exact hold i hi
  nodup := h.nodup

theorem Tidy.modify {i : Nat} {g : File → File} (h : d.Tidy known Q) (hg : ∀ f, Q f → Q (g f)) :
    ({ d with files := d.files.modify i g } : Directory κ).Tidy known Q where
  leads k j hj := by
    obtain ⟨hknown, f, hf, hq⟩ := h.leads k j hj
    refine ⟨hknown, ?_⟩
    by_cases hij : i = j
    · exact ⟨g f, by simp [hij, hf], hg f hq⟩
    · exact ⟨f, by simp [hij, hf], hq⟩
  nodup := h.nodup

theorem Tidy.rename {i : Nat} (h : d.Tidy known Q) (hi : d.lookup source = some i)
    (htarget : known target) : (d.rename source target i).Tidy known Q where
  leads k j hj := by
    have hfile := (h.leads source i (hi ▸ lookup_mem_outcomes source d)).2
    by_cases ht : k = target
    · subst ht
      rw [outcomes_rename, List.mem_append, List.mem_singleton] at hj
      rcases hj with hj | hj
      · exact h.leads k j hj
      · rw [Option.some.inj hj]
        exact ⟨htarget, hfile⟩
    · by_cases hs : k = source
      · subst hs
        rw [outcomes_rename_source ht, List.mem_append, List.mem_singleton] at hj
        rcases hj with hj | hj
        · exact h.leads k j hj
        · cases hj
      · rw [outcomes_rename_of_ne hs ht] at hj
        exact h.leads k j hj
  nodup := h.nodup

theorem Tidy.unlink (h : d.Tidy known Q) : (d.unlink name).Tidy known Q where
  leads k i hi := by
    by_cases hk : k = name
    · subst hk
      rw [outcomes_unlink_self, List.mem_append, List.mem_singleton] at hi
      rcases hi with hi | hi
      · exact h.leads k i hi
      · cases hi
    · rw [outcomes_unlink hk] at hi
      exact h.leads k i hi
  nodup := h.nodup

theorem Tidy.sync (h : d.Tidy known Q) : d.sync.Tidy (fun k => known k ∧ d.lookup k ≠ none) Q where
  leads k i hi := by
    rw [outcomes_sync, List.mem_singleton] at hi
    obtain ⟨hknown, hfile⟩ := h.leads k i (hi ▸ lookup_mem_outcomes k d)
    exact ⟨⟨hknown, by rw [← hi]; simp⟩, hfile⟩
  nodup := h.visible_nodup

theorem Tidy.crash (h : d.Tidy known Q) (reached : List Bool) (torn : Nat → Torn)
    (hq : ∀ f i, Q f → Q { f with bytes := (torn i).bytes, mode := if (torn i).early then f.born else f.mode, synced := true }) :
    (d.crash reached torn).Tidy known Q where
  leads k i hi := by
    rw [outcomes_crash, List.mem_singleton] at hi
    have hmem : some i ∈ d.outcomes k := by
      rw [hi]
      exact lookup_settle_mem (pick_sublist reached d.pending) torn k
    obtain ⟨hknown, f, hf, hqf⟩ := h.leads k i hmem
    refine ⟨hknown, ?_⟩
    cases hsynced : f.synced with
    | true => exact ⟨f, settle_file hf hsynced, hqf⟩
    | false => exact ⟨_, by simp [Directory.crash, settle, List.getElem?_mapIdx, hf, hsynced], hq f i hqf⟩
  nodup := nodup_applyAll _ h.nodup

end Directory
end Disk
