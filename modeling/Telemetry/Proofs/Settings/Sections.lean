import Telemetry.Proofs.Settings.Keys
import Telemetry.Settings.Load

/-!
# The sections of a settings file

A section such as `[targets.a]` is an entry of a table that stands at the top of a layer. Laying a
layer over a tree keeps every key that a table of the tree has, unless an entry puts something else
in the place of the table as a whole (`Setting.replaces`), and it adds the keys of its own sections
in small letters. So behind all layers the tree has the sections of every layer
(`Setting.under_layer_of_hasSection`), and the settings that are read from it have a target for
each of them (`Settings.exists_target_of_hasSection`).
-/

namespace Telemetry

/-! ## The keys of maps -/

namespace KeyMap

variable {α : Type}

theorem mem_keys_insert {m : KeyMap α} {key other : String} {value : α} :
    other ∈ (m.insert key value).map (·.1) ↔ other = key ∨ other ∈ m.map (·.1) := by
  induction m with
  | nil => simp [insert]
  | cons first rest ih =>
    obtain ⟨k, v⟩ := first
    rw [insert]
    split
    · next heq =>
      subst heq
      simp
    · split
      · simp
      · rw [List.map_cons, List.mem_cons, ih, List.map_cons, List.mem_cons]
        exact or_left_comm

theorem mem_keys_ofList {entries : List (String × α)} {key : String} :
    key ∈ (ofList entries).map (·.1) ↔ key ∈ entries.map (·.1) := by
  have hfold : ∀ (entries : List (String × α)) (m : KeyMap α),
      key ∈ (entries.foldl (fun m e ↦ m.insert e.1 e.2) m).map (·.1) ↔
        key ∈ entries.map (·.1) ∨ key ∈ m.map (·.1) := by
    intro entries
    induction entries with
    | nil => exact fun m ↦ by simp
    | cons e entries ih =>
      intro m
      rw [List.foldl_cons, ih, mem_keys_insert, List.map_cons, List.mem_cons, or_assoc,
        or_left_comm]
  rw [ofList, hfold entries []]
  exact or_iff_left List.not_mem_nil

end KeyMap

namespace Setting

/-! ## Laying values over tables -/

theorem mem_keys_set {entries : Entries} {key other : String} {value : Setting} :
    other ∈ (set entries key value).map (·.1) ↔ other = key ∨ other ∈ entries.map (·.1) := by
  induction entries with
  | nil => simp [set]
  | cons first rest ih =>
    obtain ⟨k, v⟩ := first
    rw [set]
    split
    · next heq =>
      subst heq
      simp
    · rw [List.map_cons, List.mem_cons, ih, List.map_cons, List.mem_cons]
      exact or_left_comm

theorem find?_set (entries : Entries) (key other : String) (value : Setting) :
    find? (set entries key value) other =
      if key = other then some value else find? entries other := by
  induction entries with
  | nil => by_cases h : key = other <;> simp [set, find?, h]
  | cons first rest ih =>
    obtain ⟨k, v⟩ := first
    have hcons : ∀ (k : String) (v : Setting) (rest : Entries),
        find? ((k, v) :: rest) other = if k = other then some v else find? rest other := by
      intro k v rest
      by_cases h : k = other <;> simp [find?, h]
    rw [set]
    by_cases heq : k = key
    · subst heq
      rw [if_pos rfl, hcons, hcons]
      by_cases h : k = other
      · rw [if_pos h, if_pos h]
      · rw [if_neg h, if_neg h, if_neg h]
    · rw [if_neg heq, hcons, hcons, ih]
      by_cases h : k = other
      · rw [if_pos h, if_pos h, if_neg]
        exact fun hkey ↦ heq (h.trans hkey.symm)
      · rw [if_neg h, if_neg h]

/-- Whatever is laid over a key, it is put under the key in small letters. -/
theorem exists_lay_eq_set (key : String) (present : Entries) (value : Setting) :
    ∃ laid, lay key present value = set present (Text.lower key) laid := by
  cases value with
  | table origin incoming => exact ⟨_, by rw [lay]⟩
  | _ => exact ⟨_, by rw [lay]; exact nofun⟩

theorem mem_keys_lay {key other : String} {present : Entries} {value : Setting} :
    other ∈ (lay key present value).map (·.1) ↔
      other = Text.lower key ∨ other ∈ present.map (·.1) := by
  obtain ⟨laid, hlaid⟩ := exists_lay_eq_set key present value
  rw [hlaid, mem_keys_set]

/-- A table that is laid over a value adds its keys, in small letters, to those that are there. -/
theorem mem_keys_layAll {present : Setting} {incoming : List (String × Setting)} {key : String} :
    key ∈ (layAll present incoming).entries.map (·.1) ↔
      key ∈ present.entries.map (·.1) ∨ ∃ e ∈ incoming, Text.lower e.1 = key := by
  induction incoming generalizing present with
  | nil => simp [layAll]
  | cons first rest ih =>
    obtain ⟨k, v⟩ := first
    rw [layAll, ih, entries, mem_keys_lay, List.exists_mem_cons_iff, or_assoc, or_left_comm,
      eq_comm (a := key)]

/-! ## Laying values at the end of a route -/

theorem layOn_key (name : String) (value root : Setting) :
    layOn [.key name] value root = .table root.origin (lay name root.entries value) := rfl

/-- A longer route enters the value under its first name. -/
theorem layOn_key_cons (name : String) (step : Step) (route : List Step) (value root : Setting) :
    layOn (.key name :: step :: route) value root =
      .table root.origin (set root.entries (Text.lower name)
        (layOn (step :: route) value
          ((find? root.entries (Text.lower name)).getD (.absent none)))) := by
  rw [layOn, layOn, List.getLast?_cons_cons, List.dropLast_cons_cons]
  cases hlast : (step :: route).getLast? with
  | none => exact absurd (List.getLast?_eq_none_iff.1 hlast) (List.cons_ne_nil step route)
  | some last =>
    cases last with
    | key _ => rfl
    | place _ => rfl

/-- A route that begins with a name keeps the keys of the table that it enters. -/
theorem mem_keys_layOn {name key : String} {route : List Step} {value root : Setting}
    (h : key ∈ root.entries.map (·.1)) :
    key ∈ (layOn (.key name :: route) value root).entries.map (·.1) := by
  cases route with
  | nil =>
    rw [layOn_key]
    exact mem_keys_lay.2 (.inr h)
  | cons step route =>
    rw [layOn_key_cons]
    exact mem_keys_set.2 (.inr h)

/-- The route of a key begins with a name. -/
theorem routeOf_eq_key (key : String) : ∃ name route, routeOf key = .key name :: route := by
  rw [routeOf]
  split
  · exact ⟨key, [], rfl⟩
  · split
    · exact ⟨_, _, rfl⟩
    · exact ⟨key, [], rfl⟩

/-! ## Sections -/

/-- The table at the top of a tree has a key. -/
def Under (root : Setting) (table key : String) : Prop :=
  ∃ v, find? root.entries table = some v ∧ key ∈ v.entries.map (·.1)

/-- The value is a table. -/
def isTable : Setting → Bool
  | .table _ _ => true
  | _ => false

/-- An entry at the top of a layer puts something else in the place of a table: a value that is
none, or a list. -/
def replaces (table : String) (e : String × Setting) : Bool :=
  match routeOf e.1 with
  | [.key name] => Text.lower name == table && !e.2.isTable
  | .key name :: .place _ :: _ => Text.lower name == table
  | _ => false

/-- An entry at the top of a layer is a table, in any letter case, and holds a section. -/
def isSection (table name : String) (e : String × Setting) : Bool :=
  match routeOf e.1 with
  | [.key written] => Text.lower written == table && e.2.entries.any (·.1 == name)
  | _ => false

/-- A layer has a section in one of its tables. -/
def hasSection (table name : String) (layer : Entries) : Bool := layer.any (isSection table name)

theorem isSection_iff {table name : String} {e : String × Setting} :
    isSection table name e = true ↔
      (∃ written, routeOf e.1 = [.key written] ∧ Text.lower written = table) ∧
        ∃ inner ∈ e.2.entries, inner.1 = name := by
  rw [isSection]
  split
  · next written hroute =>
    rw [Bool.and_eq_true, beq_iff_eq, List.any_eq_true, hroute]
    simp only [beq_iff_eq, List.cons.injEq, Step.key.injEq, and_true, exists_eq_left']
  · next hroute =>
    refine iff_of_false Bool.false_ne_true ?_
    rintro ⟨⟨written, h, -⟩, -⟩
    exact hroute written h

/-- A value at the top that is a table is merged into the one that is there. -/
theorem find?_lay_table {name table : String} (hname : Text.lower name = table)
    (origin : Option String) (present incoming : Entries) :
    find? (lay name present (.table origin incoming)) table =
      some (layAll ((find? present table).getD (.table none [])) incoming) := by
  rw [lay, find?_set, hname, if_pos rfl]

/-- An entry that does not replace a table keeps the keys of the table. -/
theorem Under.layOn {root : Setting} {table key : String} (h : root.Under table key)
    {e : String × Setting} (he : replaces table e = false) :
    (Setting.layOn (routeOf e.1) e.2 root).Under table key := by
  obtain ⟨v, hv, hkey⟩ := h
  obtain ⟨name, route, hroute⟩ := routeOf_eq_key e.1
  rw [replaces, hroute] at he
  rw [hroute]
  -- What goes under another name stays beside the table.
  by_cases hname : Text.lower name = table
  · match route with
    | [] =>
      obtain ⟨written, value⟩ := e
      cases value with
      | table origin entries =>
        rw [layOn_key]
        refine ⟨_, find?_lay_table hname origin root.entries entries, mem_keys_layAll.2 (.inl ?_)⟩
        rwa [hv]
      | _ => simp [hname, isTable] at he
    | .place _ :: _ => simp [hname] at he
    | .key inner :: rest =>
      rw [layOn_key_cons]
      refine ⟨_, (find?_set ..).trans (if_pos hname), mem_keys_layOn ?_⟩
      rwa [hname, hv]
  · refine ⟨v, ?_, hkey⟩
    match route with
    | [] =>
      obtain ⟨laid, hlaid⟩ := exists_lay_eq_set name root.entries e.2
      rw [layOn_key, entries, hlaid, find?_set, if_neg hname, hv]
    | step :: rest => rw [layOn_key_cons, entries, find?_set, if_neg hname, hv]

/-- Laying a section over a tree makes a key in small letters. -/
theorem under_layOn_of_isSection {table name : String} {e : String × Setting}
    (h : isSection table name e = true) (root : Setting) :
    (Setting.layOn (routeOf e.1) e.2 root).Under table (Text.lower name) := by
  obtain ⟨⟨written, hroute, htable⟩, inner, hinner, rfl⟩ := isSection_iff.1 h
  obtain ⟨key, value⟩ := e
  cases value with
  | table origin incoming =>
    rw [hroute, layOn_key]
    refine ⟨_, find?_lay_table htable origin root.entries incoming, mem_keys_layAll.2 (.inr ?_)⟩
    exact ⟨inner, hinner, rfl⟩
  | _ => exact absurd hinner List.not_mem_nil

theorem Under.layer {root : Setting} {table key : String} (h : root.Under table key)
    {layer : Entries} (hlayer : ∀ e ∈ layer, replaces table e = false) :
    (root.layer layer).Under table key := by
  induction layer generalizing root with
  | nil => exact h
  | cons e layer ih =>
    obtain ⟨he, hlayer⟩ := List.forall_mem_cons.1 hlayer
    exact ih (h.layOn he) hlayer

/-- A layer that replaces no table adds its sections. -/
theorem under_layer_of_hasSection {layer : Entries} {table name : String}
    (h : hasSection table name layer = true) (hlayer : ∀ e ∈ layer, replaces table e = false)
    (root : Setting) : (root.layer layer).Under table (Text.lower name) := by
  obtain ⟨e, he, hsection⟩ := List.any_eq_true.1 h
  obtain ⟨before, behind, rfl⟩ := List.append_of_mem he
  rw [Setting.layer, List.foldl_append, List.foldl_cons]
  refine Under.layer (under_layOn_of_isSection hsection _) fun other hother ↦ ?_
  exact hlayer other (List.mem_append_right before (List.mem_cons_of_mem e hother))

/-! ## From the tree to the settings -/

variable {α : Type}

theorem keys_of_toEntries {read : Setting → Except ReadError α} {entries : Entries}
    {found : List (String × α)} (h : toEntries read entries = .ok found) :
    found.map (·.1) = entries.map (·.1) := by
  induction entries generalizing found with
  | nil =>
    obtain rfl := Except.ok.inj h
    rfl
  | cons entry entries ih =>
    obtain ⟨key, v⟩ := entry
    rw [toEntries] at h
    obtain ⟨first, -, h⟩ := bind_eq_ok_iff.1 h
    obtain ⟨more, hmore, h⟩ := bind_eq_ok_iff.1 h
    obtain rfl := Except.ok.inj h
    rw [List.map_cons, ih hmore, List.map_cons]

theorem mem_keys_of_toMap {read : Setting → Except ReadError α} {v : Setting} {m : KeyMap α}
    (h : toMap read v = .ok m) {key : String} : key ∈ m.map (·.1) ↔ key ∈ v.entries.map (·.1) := by
  cases v with
  | table _ entries =>
    obtain ⟨found, hfound, rfl⟩ := map_eq_ok_iff.1 h
    rw [KeyMap.mem_keys_ofList, keys_of_toEntries hfound, Setting.entries]
  | _ => cases h

/-- Settings that were read from a tree have a target for every key under their table. -/
theorem Under.mem_targets {root : Setting} {key : String} (h : root.Under "targets" key)
    {s : Settings} (hs : toSettings root = .ok s) : key ∈ s.targets.map (·.1) := by
  obtain ⟨v, hv, hkey⟩ := h
  cases root with
  | table origin entries =>
    rw [toSettings] at hs
    obtain ⟨f, hf, hs⟩ := bind_eq_ok_iff.1 hs
    obtain rfl := Except.ok.inj hf
    obtain ⟨server, -, hs⟩ := bind_eq_ok_iff.1 hs
    obtain ⟨metrics, -, hs⟩ := bind_eq_ok_iff.1 hs
    obtain ⟨log, -, hs⟩ := bind_eq_ok_iff.1 hs
    obtain ⟨targets, htargets, hs⟩ := bind_eq_ok_iff.1 hs
    obtain rfl := Except.ok.inj hs
    obtain ⟨found, hfound, rfl⟩ := map_eq_ok_iff.1 htargets
    rw [Fields.read?] at hfound
    dsimp only at hfound
    rw [hv] at hfound
    obtain ⟨m, hm, rfl⟩ := map_eq_ok_iff.1 hfound
    exact (mem_keys_of_toMap (mapError_eq_ok_iff.1 hm)).2 hkey
  | _ => cases hv

end Setting

/-! ## Loaded settings -/

/-- The layer of the file that a path means. -/
def SettingsFile.layer (fs : Files) (here path : String) :
    Except SettingsError Setting.Entries := do
  let (path, format) ← find fs here path
  let text ← (fs.readText path).mapError .file
  let origin := Text.join "/" (parts path)
  match format.layer? origin text with
  | none => throw (.malformed origin)
  | some entries => return entries

namespace Settings

/-- Settings are loaded from the layer of a file and that of the environment. -/
theorem load_eq_ok_iff {fs : Files} {environment : KeyMap String} {here path : String}
    {s : Settings} :
    load fs environment here path = .ok s ↔
      ∃ file, SettingsFile.layer fs here path = .ok file ∧
        ofLayers [file, environmentLayer environment] = .ok s := by
  rw [load, SettingsFile.layer]
  cases SettingsFile.find fs here path with
  | error e => exact ⟨nofun, nofun⟩
  | ok found =>
    cases htext : (fs.readText found.1).mapError SettingsError.file with
    | error e => simp [bind, Except.bind, htext]
    | ok text =>
      cases hlayer : found.2.layer? (Text.join "/" (SettingsFile.parts found.1)) text with
      | none => simp [bind, Except.bind, htext, hlayer, throw, throwThe, MonadExceptOf.throw]
      | some entries => simp [bind, Except.bind, htext, hlayer, pure, Except.pure]

/-- Settings of layers have a target for each section of the first one, in small letters, unless
something replaces the table of the targets. -/
theorem exists_target_of_hasSection {file other : Setting.Entries} {s : Settings}
    (h : ofLayers [file, other] = .ok s) {name : String}
    (hsection : Setting.hasSection "targets" name file = true)
    (hkept : ∀ e ∈ file ++ other, Setting.replaces "targets" e = false) :
    ∃ t, (Text.lower name, t) ∈ s.targets := by
  rw [List.forall_mem_append] at hkept
  have hunder := (Setting.under_layer_of_hasSection hsection hkept.1 (.table none [])).layer hkept.2
  rw [ofLayers] at h
  obtain ⟨read, hread, h⟩ := bind_eq_ok_iff.1 h
  obtain ⟨-, -, h⟩ := bind_eq_ok_iff.1 h
  obtain rfl := Except.ok.inj h
  have hmem := hunder.mem_targets (mapError_eq_ok_iff.1 hread)
  obtain ⟨e, he, heq⟩ := List.mem_map.1 hmem
  exact ⟨e.2, heq ▸ he⟩

end Settings

end Telemetry
