import ShellWord.Proofs.Sequence
import ShellWord.Settings.Layers
import Mathlib.Data.List.ReduceOption

/-!
# Later layers win

Where the layers lie can be found out before any of them is read: `Host.layerFiles` lists their
files, from the least to the most important. Loading reads these files one after another and merges
them. So each field is what the last layer that sets it says, the order of merging does not matter,
and if a layer is faulty the first such layer is the one that is reported.
-/

namespace ShellWord

variable {α β ε : Type}

/-- Going through the values that are there is going through all of them, and dropping those that
are not. -/
theorem mapM_reduceOption (f : α → Except ε β) (l : List (Option α)) :
    l.reduceOption.mapM f = List.reduceOption <$> l.mapM (Option.mapM f) := by
  induction l with
  | nil => rfl
  | cons x rest ih =>
    cases x with
    | none => simp [ih]
    | some a => simp [ih]

/-! ## The files of the layers -/

namespace Host

variable {host : Host} {p directory : Path}

/-- The path, if there is a file at it. -/
def fileAt? (host : Host) (p : Path) : Except LoadError (Option Path) :=
  match host.tree.isFile host.cwd p with
  | .error e => .error (.file e)
  | .ok found => .ok (if found then some p else none)

/-- The file that the environment names, if there is one of that name. -/
def namedFile? (host : Host) : Except LoadError (Option Path) :=
  match host.namedFile with
  | none => .ok none
  | some name =>
    if name = "" then .ok none
    else
      match (Path.ofString name).expandHome host.homes with
      | .error e => .error (.home e)
      | .ok p => host.fileAt? p

/-- The files of the layers: that of the user, that of the project and that which the environment
names, as far as they exist. -/
def layerFiles (host : Host) (directory : Path) : Except LoadError (List Path) := do
  let user ← host.fileAt? (userFile host.homes)
  let project ← findProjectFile host directory
  let named ← host.namedFile?
  return [user, project, named].reduceOption

end Host

namespace Settings

variable {host : Host} {directory p : Path} {files : List Path}

theorem ofFileIfAny_eq :
    ofFileIfAny host p = host.fileAt? p >>= fun found => found.mapM (ofFile host) := by
  rw [ofFileIfAny, Host.fileAt?]
  cases host.tree.isFile host.cwd p with
  | error e => rfl
  | ok found => cases found <;> rfl

theorem projectLayer_eq :
    projectLayer host directory =
      findProjectFile host directory >>= fun found => found.mapM (ofFile host) := by
  rw [projectLayer]
  cases findProjectFile host directory with
  | error e => rfl
  | ok found => cases found <;> rfl

theorem namedLayer_eq :
    namedLayer host = host.namedFile? >>= fun found => found.mapM (ofFile host) := by
  rw [namedLayer, Host.namedFile?]
  cases host.namedFile with
  | none => rfl
  | some name =>
    by_cases hname : name = ""
    · simp only [hname, if_true]
      rfl
    · simp only [hname, if_false]
      cases (Path.ofString name).expandHome host.homes with
      | error e => rfl
      | ok p => exact ofFileIfAny_eq

/-- Loading reads the files of the layers in their order, and merges what they set. -/
theorem load_eq_of_layerFiles (h : host.layerFiles directory = .ok files) :
    load host directory = (·.foldl merge {}) <$> files.mapM (ofFile host) := by
  rw [Host.layerFiles] at h
  rw [load, userLayer, ofFileIfAny_eq, projectLayer_eq, namedLayer_eq]
  obtain ⟨user, huser, h⟩ := bind_eq_ok_iff.1 h
  obtain ⟨project, hproject, h⟩ := bind_eq_ok_iff.1 h
  obtain ⟨named, hnamed, h⟩ := bind_eq_ok_iff.1 h
  cases h
  rw [huser, hproject, hnamed, mapM_reduceOption]
  change (do
    let user ← user.mapM (ofFile host)
    let project ← project.mapM (ofFile host)
    let named ← named.mapM (ofFile host)
    return ([user, project, named].filterMap id).foldl merge {}) = _
  simp [List.reduceOption]

/-! ## Merging -/

@[simp]
theorem empty_merge (s : Settings) : merge {} s = s := by
  simp [merge]

theorem merge_assoc (a b c : Settings) : (a.merge b).merge c = a.merge (b.merge c) := by
  simp [merge, Option.or_assoc]

/-- A way to merge layers two at a time. -/
inductive Bracketing
  | layer (s : Settings)
  | pair (left right : Bracketing)

/-- The layers that are merged, in order. -/
def Bracketing.layers : Bracketing → List Settings
  | layer s => [s]
  | pair left right => left.layers ++ right.layers

/-- What the merges come to. -/
def Bracketing.merged : Bracketing → Settings
  | layer s => s
  | pair left right => left.merged.merge right.merged

theorem foldl_merge_eq (base : Settings) (layers : List Settings) :
    layers.foldl merge base = base.merge (layers.foldl merge {}) := by
  induction layers generalizing base with
  | nil => simp [merge]
  | cons s rest ih => rw [List.foldl_cons, List.foldl_cons, ih, ih (merge {} s), empty_merge,
      merge_assoc]

/-- However the merges are bracketed, they come to what merging one after another comes to. -/
theorem Bracketing.merged_eq (b : Bracketing) : b.merged = b.layers.foldl merge {} := by
  induction b with
  | layer s => exact (empty_merge s).symm
  | pair left right hleft hright =>
    rw [merged, layers, List.foldl_append, foldl_merge_eq, ← hleft, ← hright]

/-- What the last layer that sets a field sets it to. -/
def lastSet (field : Settings → Option α) (layers : List Settings) : Option α :=
  (layers.filterMap field).getLast?

/-- Merging takes a field from the last layer that sets it, if the overlay wins in it. -/
theorem lastSet_eq_of_merge (field : Settings → Option α) (hempty : field {} = none)
    (hmerge : ∀ a b, field (a.merge b) = (field b).or (field a)) (layers : List Settings) :
    field (layers.foldl merge {}) = lastSet field layers := by
  induction layers with
  | nil => exact hempty
  | cons s rest ih =>
    rw [List.foldl_cons, empty_merge, foldl_merge_eq, hmerge, ih, lastSet, lastSet,
      List.filterMap_cons]
    cases field s with
    | none => simp
    | some a => simp [List.getLast?_cons]

/-! ## One file after another -/

theorem source_of_ofFile {s : Settings} (h : ofFile host p = .ok s) :
    s.source = some p.toString := by
  rw [ofFile] at h
  split at h
  · cases h
  · split at h
    · cases h
    · split at h
      · cases h
        rfl
      · cases h
      · cases h

theorem path_of_ofFile {path : String} {e : LayerError}
    (h : ofFile host p = .error (.layer path e)) : path = p.toString := by
  rw [ofFile] at h
  split at h
  · cases h
  · split at h
    · cases h
      rfl
    · split at h
      · cases h
      · cases h
      · cases h
        rfl

/-- Files that are all valid are read to their layers, each with the path of its file. -/
theorem mapM_ofFile (h : ∀ p ∈ files, ∃ s, ofFile host p = .ok s) :
    ∃ layers, files.map (ofFile host) = layers.map .ok ∧ files.mapM (ofFile host) = .ok layers ∧
      layers.filterMap source = files.map Path.toString := by
  induction files with
  | nil => exact ⟨[], rfl, rfl, rfl⟩
  | cons p rest ih =>
    obtain ⟨s, hs⟩ := h p List.mem_cons_self
    obtain ⟨layers, hmap, hmapM, hsource⟩ := ih fun q hq => h q (List.mem_cons_of_mem p hq)
    refine ⟨s :: layers, by simp [hs, hmap], ?_, ?_⟩
    · rw [List.mapM_cons, hs, hmapM]
      rfl
    · simp [source_of_ofFile hs, hsource]

/-- Each field is what the last of the layers that set it says. -/
structure SetByLast (layers : List Settings) (s : Settings) : Prop where
  dialect : s.dialect = lastSet Settings.dialect layers
  log : s.log = lastSet Settings.log layers
  logFull : s.logFull = lastSet Settings.logFull layers

theorem setByLast_foldl_merge (layers : List Settings) :
    SetByLast layers (layers.foldl merge {}) := by
  constructor
  case dialect => exact lastSet_eq_of_merge _ rfl (fun _ _ => rfl) layers
  case log => exact lastSet_eq_of_merge _ rfl (fun _ _ => rfl) layers
  case logFull => exact lastSet_eq_of_merge _ rfl (fun _ _ => rfl) layers

/-- Where the files of the layers can be looked up and each is valid or faulty: if all are valid,
every field is what the last layer that sets it says, the source is the last file, and neither the
bracketing of the merges nor an empty layer at their base changes anything. If one is faulty, the
first such file is reported with its path and its fault. -/
theorem load_of_layerFiles (hfiles : host.layerFiles directory = .ok files)
    (hlayers : ∀ p ∈ files, (∃ s, ofFile host p = .ok s) ∨
      ∃ path e, ofFile host p = .error (.layer path e)) :
    ((∀ p ∈ files, ∃ s, ofFile host p = .ok s) →
      ∃ layers s, files.map (ofFile host) = layers.map .ok ∧ load host directory = .ok s ∧
        SetByLast layers s ∧ s.source = files.getLast?.map Path.toString ∧
        ∀ b : Bracketing, b.layers = layers ∨ b.layers = {} :: layers → b.merged = s) ∧
    ((∃ p ∈ files, ∀ s, ofFile host p ≠ .ok s) →
      ∃ before p after e, files = before ++ p :: after ∧
        (∀ q ∈ before, ∃ s, ofFile host q = .ok s) ∧
        ofFile host p = .error (.layer p.toString e) ∧
        load host directory = .error (.layer p.toString e) ∧
        LoadError.message (.layer p.toString e) = s!"{p.toString}: {e.message}") := by
  rw [load_eq_of_layerFiles hfiles]
  constructor
  · intro hvalid
    obtain ⟨layers, hmap, hmapM, hsource⟩ := mapM_ofFile hvalid
    refine ⟨layers, layers.foldl merge {}, hmap, by rw [hmapM]; rfl, setByLast_foldl_merge layers,
      ?_, ?_⟩
    · rw [lastSet_eq_of_merge source rfl (fun _ _ => rfl), lastSet, hsource,
        List.getLast?_map]
    · rintro b (hb | hb)
      · rw [b.merged_eq, hb]
      · rw [b.merged_eq, hb, List.foldl_cons, empty_merge]
  · intro hfaulty
    obtain ⟨before, p, after, e, rfl, hbefore, hp⟩ := exists_first_error hfaulty
    rw [mapM_of_first_error hbefore hp]
    rcases hlayers p (by simp) with ⟨s, hs⟩ | ⟨path, fault, hfault⟩
    · rw [hp] at hs
      cases hs
    · rw [hp] at hfault
      cases hfault
      obtain rfl := path_of_ofFile hp
      exact ⟨before, p, after, fault, rfl, hbefore, hp, rfl, rfl⟩

/-- A host with three layers: those of the user and of the project contradict each other, and the
one that the environment names is empty. -/
def threeLayers : Host where
  tree := ⟨[(["home"], .directory), (["home", ".shellquote"], .directory),
    (["home", ".shellquote", "config.toml"], .file (ascii "log_full=true")),
    (["work"], .directory), (["work", ".shellquote.toml"], .file (ascii "log_full=false")),
    (["work", "x"], .file [])]⟩
  cwd := ["work"]
  homes := ⟨"/home", []⟩
  namedFile := some "x"

/-- The project turns off what the user has turned on, and the source is the empty file. -/
theorem load_of_layerFiles_three :
    threeLayers.layerFiles ⟨.root, ["work"]⟩ = .ok [⟨.root, ["home", ".shellquote", "config.toml"]⟩,
      ⟨.root, ["work", ".shellquote.toml"]⟩, ⟨.here, ["x"]⟩] ∧
    ∃ s, load threeLayers ⟨.root, ["work"]⟩ = .ok s ∧ s.logFull = some false ∧
      s.source = some "x" := by
  have hfiles : threeLayers.layerFiles ⟨.root, ["work"]⟩ =
      .ok [⟨.root, ["home", ".shellquote", "config.toml"]⟩, ⟨.root, ["work", ".shellquote.toml"]⟩,
        ⟨.here, ["x"]⟩] :=
    eq_ok_of_toOption (by decide +kernel)
  have hread : [⟨.root, ["home", ".shellquote", "config.toml"]⟩,
        ⟨.root, ["work", ".shellquote.toml"]⟩, ⟨.here, ["x"]⟩].map
          (fun p => (ofFile threeLayers p).toOption) =
      [some { logFull := some true, source := some "/home/.shellquote/config.toml" },
        some { logFull := some false, source := some "/work/.shellquote.toml" },
        some { source := some "x" }] := by decide +kernel
  simp only [List.map_cons, List.map_nil, List.cons.injEq, and_true] at hread
  obtain ⟨huser, hproject, hnamed⟩ := hread
  have hvalid : ∀ p ∈ [⟨.root, ["home", ".shellquote", "config.toml"]⟩,
      ⟨.root, ["work", ".shellquote.toml"]⟩, ⟨.here, ["x"]⟩],
      ∃ s, ofFile threeLayers p = .ok s := by
    simp [eq_ok_of_toOption huser, eq_ok_of_toOption hproject, eq_ok_of_toOption hnamed]
  obtain ⟨layers, s, hlayers, hload, hset, hsource, _⟩ :=
    (load_of_layerFiles hfiles fun p hp => .inl (hvalid p hp)).1 hvalid
  refine ⟨hfiles, s, hload, ?_, hsource.trans (by decide)⟩
  have hthree : layers = [{ logFull := some true, source := some "/home/.shellquote/config.toml" },
      { logFull := some false, source := some "/work/.shellquote.toml" },
      { source := some "x" }] := by
    refine List.map_injective_iff.2 (fun _ _ => Except.ok.inj) (hlayers.symm.trans ?_)
    simp [eq_ok_of_toOption huser, eq_ok_of_toOption hproject, eq_ok_of_toOption hnamed]
  rw [hset.logFull, hthree]
  rfl

end Settings

end ShellWord
