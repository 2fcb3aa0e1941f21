import Mathlib.Data.String.Basic
import Telemetry.Proofs.Definition.Labels
import Telemetry.Settings.Reader

/-!
# The keys of settings

Maps keep their keys in order, and so no key stands twice in a map that was put together entry by
entry (`KeyMap.isSorted_ofList`). The targets of settings and the constant labels of a target are
such maps: in settings that were read no two targets have one name, and no two labels of a target
(`Setting.wellKeyed_of_toSettings`).
-/

namespace Telemetry

namespace KeyMap

variable {α : Type}

/-- The keys are in order. -/
def IsSorted (m : KeyMap α) : Prop := (m.map (·.1)).Pairwise (· < ·)

theorem IsSorted.nodup_keys {m : KeyMap α} (h : m.IsSorted) : (m.map (·.1)).Nodup :=
  List.Pairwise.imp ne_of_lt h

theorem mem_insert {m : KeyMap α} {key : String} {value : α} {e : String × α}
    (h : e ∈ m.insert key value) : e = (key, value) ∨ e ∈ m := by
  induction m with
  | nil => exact .inl (List.mem_singleton.1 h)
  | cons first rest ih =>
    obtain ⟨k, v⟩ := first
    rw [insert] at h
    split at h
    · rcases List.mem_cons.1 h with h | h
      · exact .inl h
      · exact .inr (List.mem_cons_of_mem _ h)
    · split at h
      · exact List.mem_cons.1 h
      · rcases List.mem_cons.1 h with h | h
        · exact .inr (h ▸ List.mem_cons_self)
        · exact (ih h).imp_right (List.mem_cons_of_mem _)

theorem IsSorted.insert {m : KeyMap α} (h : m.IsSorted) (key : String) (value : α) :
    (m.insert key value).IsSorted := by
  induction m with
  | nil => exact List.pairwise_singleton _ _
  | cons first rest ih =>
    obtain ⟨k, v⟩ := first
    obtain ⟨hfirst, hrest⟩ := List.pairwise_cons.1 h
    rw [KeyMap.insert]
    by_cases heq : k = key
    · rw [if_pos heq]
      subst heq
      exact h
    · rw [if_neg heq]
      by_cases hlt : key < k
      · rw [if_pos hlt]
        refine List.pairwise_cons.2 ⟨fun other hother ↦ ?_, h⟩
        rcases List.mem_cons.1 hother with rfl | hother
        · exact hlt
        · exact lt_trans hlt (hfirst other hother)
      · rw [if_neg hlt]
        refine List.pairwise_cons.2 ⟨fun other hother ↦ ?_, ih hrest⟩
        obtain ⟨e, he, rfl⟩ := List.mem_map.1 hother
        rcases mem_insert he with rfl | he
        · exact lt_of_le_of_ne (not_lt.1 hlt) heq
        · exact hfirst e.1 (List.mem_map_of_mem he)

theorem isSorted_ofList (entries : List (String × α)) : (ofList entries).IsSorted := by
  have hfold : ∀ (entries : List (String × α)) (m : KeyMap α), m.IsSorted →
      (entries.foldl (fun m e ↦ m.insert e.1 e.2) m).IsSorted := by
    intro entries
    induction entries with
    | nil => exact fun m h ↦ h
    | cons e entries ih => exact fun m h ↦ ih _ (h.insert e.1 e.2)
  exact hfold entries [] List.Pairwise.nil

theorem mem_of_mem_ofList {entries : List (String × α)} {e : String × α} (h : e ∈ ofList entries) :
    e ∈ entries := by
  have hfold : ∀ (entries : List (String × α)) (m : KeyMap α),
      e ∈ entries.foldl (fun m e ↦ m.insert e.1 e.2) m → e ∈ entries ∨ e ∈ m := by
    intro entries
    induction entries with
    | nil => exact fun m h ↦ .inr h
    | cons first entries ih =>
      intro m h
      rcases ih _ h with h | h
      · exact .inl (List.mem_cons_of_mem _ h)
      · rcases mem_insert h with rfl | h
        · exact .inl List.mem_cons_self
        · exact .inr h
  exact (hfold entries [] h).resolve_right List.not_mem_nil

end KeyMap

/-- No two targets have one name, and no two constant labels of a target. -/
structure Settings.WellKeyed (s : Settings) : Prop where
  targets : (s.targets.map (·.1)).Nodup
  labels : ∀ e ∈ s.targets, (e.2.labels.map (·.1)).Nodup

namespace Setting

variable {α : Type}

/-- A field that is read has its default, or was read from some value. -/
theorem of_readOr {p : α → Prop} {f : Fields} {place : Nat} {name : String} {default a : α}
    {read : Setting → Except ReadError α} (h : f.readOr place name default read = .ok a)
    (hdefault : p default) (hread : ∀ v a, read v = .ok a → p a) : p a := by
  obtain ⟨found, hfound, rfl⟩ := map_eq_ok_iff.1 h
  cases found with
  | none => exact hdefault
  | some a =>
    rw [Option.getD_some]
    rw [Fields.read?] at hfound
    split at hfound
    · split at hfound
      · obtain ⟨a', ha', heq⟩ := map_eq_ok_iff.1 hfound
        exact Option.some.inj heq ▸ hread _ _ (mapError_eq_ok_iff.1 ha')
      · cases hfound
    · split at hfound
      · obtain ⟨a', ha', heq⟩ := map_eq_ok_iff.1 hfound
        exact Option.some.inj heq ▸ hread _ _ (mapError_eq_ok_iff.1 ha')
      · cases hfound

theorem of_mem_toEntries {p : α → Prop} {read : Setting → Except ReadError α}
    (hread : ∀ v a, read v = .ok a → p a) {entries : Entries} {found : List (String × α)}
    (h : toEntries read entries = .ok found) : ∀ e ∈ found, p e.2 := by
  induction entries generalizing found with
  | nil =>
    obtain rfl := Except.ok.inj h
    exact nofun
  | cons entry entries ih =>
    obtain ⟨key, v⟩ := entry
    rw [toEntries] at h
    obtain ⟨first, hfirst, h⟩ := bind_eq_ok_iff.1 h
    obtain ⟨more, hmore, h⟩ := bind_eq_ok_iff.1 h
    obtain rfl := Except.ok.inj h
    exact List.forall_mem_cons.2 ⟨hread v first (mapError_eq_ok_iff.1 hfirst), ih hmore⟩

/-- A map that is read has different keys, and its values were read. -/
theorem of_toMap {p : α → Prop} {read : Setting → Except ReadError α}
    (hread : ∀ v a, read v = .ok a → p a) {v : Setting} {m : KeyMap α}
    (h : toMap read v = .ok m) : (m.map (·.1)).Nodup ∧ ∀ e ∈ m, p e.2 := by
  cases v with
  | table _ entries =>
    obtain ⟨found, hfound, rfl⟩ := map_eq_ok_iff.1 h
    refine ⟨(KeyMap.isSorted_ofList found).nodup_keys, fun e he ↦ ?_⟩
    exact of_mem_toEntries hread hfound e (KeyMap.mem_of_mem_ofList he)
  | _ => cases h

/-- The labels of a target that is read have different names. -/
theorem nodup_labels_of_toTarget {v : Setting} {target : TargetSettings}
    (h : toTarget v = .ok target) : (target.labels.map (·.1)).Nodup := by
  rw [toTarget] at h
  simp only [bind_eq_ok_iff] at h
  obtain ⟨f, -, url, -, username, -, password, -, passwordFile, -, passwordEnv, -, usernameEnv, -,
    role, -, maxOpenConns, -, poolMin, -, poolMax, -, timeout, -, labels, hlabels, h⟩ := h
  have hkeyed : (labels.map (·.1)).Nodup :=
    of_readOr (p := fun m : KeyMap String ↦ (m.map (·.1)).Nodup) hlabels List.nodup_nil
      fun _ _ hmap ↦ (of_toMap (p := fun _ ↦ True) (fun _ _ _ ↦ trivial) hmap).1
  cases url with
  | none => cases h
  | some text =>
    obtain rfl := Except.ok.inj h
    exact hkeyed

/-- In settings that were read, keys are different. -/
theorem wellKeyed_of_toSettings {v : Setting} {s : Settings} (h : toSettings v = .ok s) :
    s.WellKeyed := by
  rw [toSettings] at h
  obtain ⟨f, -, h⟩ := bind_eq_ok_iff.1 h
  obtain ⟨server, -, h⟩ := bind_eq_ok_iff.1 h
  obtain ⟨metrics, -, h⟩ := bind_eq_ok_iff.1 h
  obtain ⟨log, -, h⟩ := bind_eq_ok_iff.1 h
  obtain ⟨targets, htargets, h⟩ := bind_eq_ok_iff.1 h
  obtain rfl := Except.ok.inj h
  have hkeyed := of_readOr
    (p := fun m : KeyMap TargetSettings ↦
      (m.map (·.1)).Nodup ∧ ∀ e ∈ m, (e.2.labels.map (·.1)).Nodup)
    htargets ⟨List.nodup_nil, nofun⟩
    fun _ _ ↦ of_toMap (p := fun target : TargetSettings ↦ (target.labels.map (·.1)).Nodup)
      fun _ _ ↦ nodup_labels_of_toTarget
  exact ⟨hkeyed.1, hkeyed.2⟩

end Setting

end Telemetry
