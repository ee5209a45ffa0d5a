import LlmUniversalProxy.Json.Members
import LlmUniversalProxy.Lib.Files
import LlmUniversalProxy.Lib.Lines
import LlmUniversalProxy.Lib.Result
import LlmUniversalProxy.Lib.Run
import LlmUniversalProxy.UserTools.CodexSetup

/-!
# `UserTools.CodexInstall` — installing, and removing what was installed

An install writes the files of one model, and a manifest of all files that installs have written
under the same home. It takes the older ones from the manifest that is there, which it has written
as text: two strings from outside go into it as they are. While they are the bodies of string
literals the manifest can be read, and tracks every file (`Tracks`); `uninstall_removes` says what
is gone then.

Directories are not modelled: the file system is what each path holds. A path is bytes, as it is to
the operating system.

The source is `user_tools/codex_setup.rs` 360-487, 692-708 and 871-910.
-/

set_option autoImplicit false

namespace LlmUniversalProxy.UserTools

open Json Lib

/-! ## Paths -/

abbrev Path := List UInt8

def slash : UInt8 := 47

/-- A directory, as what is in it continues the path. -/
def dirPrefix (base : Path) : Path :=
  if base.isEmpty ∨ base.getLast? = some slash then base else base ++ [slash]

/-- `Path::join` with a relative path. -/
def join (base : Path) (name : String) : Path := dirPrefix base ++ bytesOf name

/-- `Path::to_string_lossy`, and what `Path::display` prints. -/
def toStringLossy (path : Path) : String := String.ofList (Utf8.fromUtf8Lossy path)

/-- `backup_path`. -/
def backupPath (path : Path) : Path := path ++ bytesOf ".bak"

def profilePath (codexHome : Path) : Path := join codexHome "llmup.config.toml"

def agentPath (codexHome : Path) (model : String) : Path :=
  join (join codexHome "agents") (agentFileName model)

def stateDir (codexHome : Path) : Path := join codexHome "llmup"

def statePath (codexHome : Path) : Path := join (stateDir codexHome) "state.json"

/-- `derived_catalog_path`. -/
def derivedCatalogPath (codexHome : Path) : Path := join (stateDir codexHome) "model-catalog.json"

/-! ## Installing -/

/-- What `serde_json` does for an install. -/
structure SetupEnv where
  serde : Serde
  /-- `serde_json::to_string_pretty`. -/
  toStringPretty : Value → String

/-- A model name that the command line accepts. -/
structure ModelName where
  name : String
  valid : isValidModelName name = true

/-- One call of `install`: what it is given, and what it is told by the `codex` and `date`
commands. -/
structure Installation where
  baseUrl : String
  model : ModelName
  reasoningEffort : Option String := none
  contextWindow : Option Nat := none
  bundledCatalogJson : Option String := none
  codexVersion : String
  createdAt : String

/-- `write_config_file_atomic`. -/
def writeConfigFileAtomic (path : Path) (contents : String) (fs : FileSystem Path) :
    FileSystem Path := fs.replace backupPath path (bytesOf contents)

/-- `fs::read_to_string`. -/
def readToString (fs : FileSystem Path) (path : Path) : Option String :=
  (fs path).bind Lines.fromUtf8

/-- `derive_and_write_catalog`. -/
def deriveAndWriteCatalog (env : SetupEnv) (codexHome : Path) (rawJson : String)
    (fs : FileSystem Path) : Except String (FileSystem Path) :=
  match fromStr env.serde rawJson with
  | none => .error s!"failed to parse codex bundled catalog JSON: {env.serde.errorText rawJson}"
  | some catalog => .ok (writeConfigFileAtomic (derivedCatalogPath codexHome)
      (env.toStringPretty (patchCatalogV1 catalog)) fs)

/-- `read_previous_managed_files`. -/
def readPreviousManagedFiles (env : SetupEnv) (fs : FileSystem Path) (stateFile : Path) :
    List String :=
  match (readToString fs stateFile).bind (fromStr env.serde) with
  | none => []
  | some value => ((value.getArray "managed_files").getD []).filterMap Value.asStr

/-- The files of an install. -/
def writtenPaths (codexHome : Path) (i : Installation) : List Path :=
  [profilePath codexHome, agentPath codexHome i.model.name] ++
    (if i.bundledCatalogJson.isSome then [derivedCatalogPath codexHome] else [])

/-- The derivation of the catalog in `install`, if there is one to derive. -/
def installCatalog (env : SetupEnv) (codexHome : Path) (i : Installation) (fs : FileSystem Path) :
    Except String (FileSystem Path) :=
  match i.bundledCatalogJson with
  | some raw => deriveAndWriteCatalog env codexHome raw fs
  | none => .ok fs

/-- `install` (`codex_setup.rs` 764-819). -/
def install (env : SetupEnv) (codexHome : Path) (i : Installation) (fs : FileSystem Path) :
    Except String (FileSystem Path) := do
  let profile := profilePath codexHome
  let agent := agentPath codexHome i.model.name
  let stateFile := statePath codexHome
  let fs ← installCatalog env codexHome i fs
  let catalogStr := if i.bundledCatalogJson.isSome then
    Lines.fromUtf8 (derivedCatalogPath codexHome) else none
  let profileContent := buildProfileContent (readToString fs profile) i.baseUrl catalogStr
  let fs := writeConfigFileAtomic profile profileContent fs
  let fs := writeConfigFileAtomic agent
    (generateAgentContent i.model.name i.reasoningEffort i.contextWindow) fs
  -- the files of earlier installs stay on the list, so that an uninstall finds them
  let managedFiles := unionBehind ((writtenPaths codexHome i).map toStringLossy)
    (readPreviousManagedFiles env fs stateFile)
  pure (writeConfigFileAtomic stateFile
    (generateStateContent i.codexVersion managedFiles i.createdAt) fs)

/-- An install that succeeds. -/
def InstallStep (env : SetupEnv) (codexHome : Path) (fs : FileSystem Path) (i : Installation)
    (fs' : FileSystem Path) : Prop := install env codexHome i fs = .ok fs'

/-! ## Uninstalling -/

/-- `run_uninstall` (`codex_setup.rs` 871-910): the file system behind it, and the lines it prints.
-/
def runUninstall (env : SetupEnv) (codexHome : Path) (fs : FileSystem Path) :
    Except String (FileSystem Path × List String) :=
  let stateFile := statePath codexHome
  match fs stateFile with
  | none => .ok (fs, ["codex-setup uninstall: nothing to remove (no state file)."])
  | some bytes =>
      match Lines.fromUtf8 bytes with
      | none => .error s!"failed to read {toStringLossy stateFile}: stream did not contain valid UTF-8"
      | some content =>
          match fromStr env.serde content with
          | none => .error
              s!"failed to parse {toStringLossy stateFile}: {env.serde.errorText content}"
          | some value =>
              let files := ((value.getArray "managed_files").getD []).filterMap Value.asStr
              -- only what was there is reported
              let removed := removedLines fs (files.map bytesOf)
              -- the state file goes last
              .ok ((fs.removeAll (files.map bytesOf)).remove stateFile,
                removed ++ ["codex-setup uninstall: complete."])
where
  /-- A line for each file that was there. -/
  removedLines (fs : FileSystem Path) : List Path → List String
    | [] => []
    | path :: rest =>
        (if (fs path).isSome then [s!"removed {toStringLossy path}"] else []) ++
          removedLines (fs.remove path) rest

/-! ## The manifest is read -/

theorem toList_intercalate_literals (files : List String) :
    (",".intercalate (files.map fun file => (Value.string file).toJson)).toList =
      literals files := by
  induction files with
  | nil => rfl
  | cons file files ih =>
    cases files with
    | nil => simp [literals, Value.toJson, valueChars]
    | cons next files =>
      rw [List.map_cons] at ih
      rw [List.map_cons, List.map_cons, String.intercalate_cons_cons, String.toList_append,
        String.toList_append, ih]
      simp [literals, Value.toJson, valueChars]

theorem length_le_literals (files : List String) : files.length ≤ (literals files).length := by
  induction files with
  | nil => exact Nat.le_refl 0
  | cons file files ih =>
    cases files with
    | nil => simp [literals, stringChars]
    | cons next files =>
      rw [literals]
      · simp only [List.length_append, List.length_cons] at ih ⊢
        omega
      · intro h
        cases h

/-- The members of the manifest, behind its brace. -/
def memberChars (codexVersion : String) (files : List String) (createdAt : String) : List Char :=
  '\n' :: (stringChars "schema_version" ++ ':' :: ' ' :: '1' :: ',' ::
    '\n' :: (stringChars "codex_version" ++ ':' :: ' ' :: '"' :: (codexVersion.toList ++ '"' ::
      ',' :: '\n' :: (stringChars "provider_id" ++ ':' :: ' ' :: (stringChars "llmup" ++
        ',' :: '\n' :: (stringChars "managed_files" ++ ':' :: ' ' ::
          '[' :: (literals files ++ ']' :: ',' :: '\n' :: (stringChars "created_at" ++
            ':' :: ' ' :: '"' :: (createdAt.toList ++ '"' :: '\n' :: ['}', '\n'])))))))))

theorem toList_generateStateContent (codexVersion : String) (files : List String)
    (createdAt : String) :
    (generateStateContent codexVersion files createdAt).toList =
      '{' :: memberChars codexVersion files createdAt := by
  unfold generateStateContent memberChars
  simp only [String.toList_append, toList_intercalate_literals, List.append_assoc]
  rfl

/-- The manifest as it is read. -/
def manifestFields (codexVersion : String) (files : List String) (createdAt : String) :
    List (String × Value) :=
  insertSorted "created_at" (.string createdAt)
    (insertSorted "managed_files" (.array (files.map .string))
      (insertSorted "provider_id" (.string "llmup")
        (insertSorted "codex_version" (.string codexVersion)
          (insertSorted "schema_version" (.number (.posInt 1)) []))))

/-- **What an install has written about itself can be read**, if the two strings from outside fit
between quotes. -/
theorem fromStr_generateStateContent (serde : Serde) {codexVersion createdAt : String}
    (hversion : isLiteralBody codexVersion = true) (hcreated : isLiteralBody createdAt = true)
    {files : List String} (hne : files ≠ []) :
    ∃ version created, fromStr serde (generateStateContent codexVersion files createdAt) =
      some (.object (manifestFields version files created)) := by
  obtain ⟨version, hversion⟩ := parseString_of_isLiteralBody hversion
  obtain ⟨created, hcreated⟩ := parseString_of_isLiteralBody hcreated
  refine ⟨version, created, ?_⟩
  have hlength : files.length + 8 ≤ (memberChars codexVersion files createdAt).length := by
    have hfiles := length_le_literals files
    simp only [memberChars, List.length_cons, List.length_append]
    omega
  unfold fromStr
  rw [toList_generateStateContent]
  generalize hfuel : 2 * ('{' :: memberChars codexVersion files createdAt).length + 2 = fuel
  obtain ⟨fuel, rfl⟩ : ∃ n, fuel = n + 8 := ⟨fuel - 8, by
    rw [List.length_cons] at hfuel
    omega⟩
  have hmembers : parseFields serde.floatText (fuel + 7) 127 []
      (memberChars codexVersion files createdAt) =
        some (manifestFields version files created, ['\n']) := by
    have hroom : files.length < fuel + 2 := by
      rw [List.length_cons] at hfuel
      omega
    rw [memberChars, parseFields_member (v := .number (.posInt 1)) rfl,
      parseFields_member (parseValue_string (hversion _) _ _),
      parseFields_member (parseValue_stringChars "llmup" _ _ _),
      parseFields_member (parseValue_literals hne _ hroom (by decide)),
      parseFields_last (parseValue_string (hcreated _) _ _)]
    rfl
  have hvalue : parseValue serde.floatText (fuel + 8) 128
      ('{' :: memberChars codexVersion files createdAt) =
        some (.object (manifestFields version files created), ['\n']) := by
    unfold parseValue
    show (parseFields serde.floatText (fuel + 7) 127 [] _).map _ = _
    rw [hmembers]
    rfl
  rw [hvalue]
  rfl

/-- A bare quote in the version ends its literal, and what is behind it is not JSON. -/
theorem fromStr_generateStateContent_quote (serde : Serde) (before : String) {c : Char}
    (hc : c ≠ ',' ∧ c ≠ '\x7d' ∧ isJsonSpace c = false) (after : List Char) (files : List String)
    (createdAt : String) :
    fromStr serde (generateStateContent (String.ofList (escapeChars before.toList ++
      '"' :: c :: after)) files createdAt) = none := by
  unfold fromStr
  rw [toList_generateStateContent]
  generalize hfuel : 2 * _ + 2 = fuel
  obtain ⟨fuel, rfl⟩ : ∃ n, fuel = n + 4 := ⟨fuel - 4, by
    rw [List.length_cons] at hfuel
    omega⟩
  have hmembers : parseFields serde.floatText (fuel + 3) 127 [] (memberChars
      (String.ofList (escapeChars before.toList ++ '"' :: c :: after)) files createdAt) = none := by
    rw [memberChars, parseFields_member (v := .number (.posInt 1)) rfl, String.toList_ofList,
      List.append_assoc, List.cons_append, List.cons_append, parseFields_key,
      parseValue_string (parseString_escapeChars before _), Option.bind_some]
    simp [skipSpace, hc]
  have hvalue : parseValue serde.floatText (fuel + 4) 128 ('{' :: memberChars
      (String.ofList (escapeChars before.toList ++ '"' :: c :: after)) files createdAt) = none := by
    unfold parseValue
    show (parseFields serde.floatText (fuel + 3) 127 [] _).map _ = _
    rw [hmembers]
    rfl
  rw [hvalue]
  rfl

theorem getArray_manifestFields (version : String) (files : List String) (created : String) :
    (Value.object (manifestFields version files created)).getArray "managed_files" =
      some (files.map .string) := by
  have hget : (Value.object (manifestFields version files created)).get "managed_files" =
      some (.array (files.map .string)) := by
    show (manifestFields version files created).lookup "managed_files" = _
    unfold manifestFields
    rw [lookup_insertSorted, if_neg (by decide), lookup_insertSorted, if_pos rfl]
  rw [Value.getArray, hget]
  rfl

theorem filterMap_asStr (files : List String) :
    (files.map Value.string).filterMap Value.asStr = files := by
  induction files with
  | nil => rfl
  | cons file files ih => rw [List.map_cons, List.filterMap_cons, Value.asStr_string, ih]

/-! ## The paths of an install -/

/-- A path that is text, too. -/
def IsUtf8 (path : Path) : Prop := ∃ s, path = bytesOf s

theorem bytesOf_toStringLossy {path : Path} (h : IsUtf8 path) :
    bytesOf (toStringLossy path) = path := by
  obtain ⟨s, rfl⟩ := h
  rw [toStringLossy, Utf8.fromUtf8Lossy_bytesOf, String.ofList_toList]

theorem isUtf8_dirPrefix {base : Path} (h : IsUtf8 base) : IsUtf8 (dirPrefix base) := by
  obtain ⟨s, rfl⟩ := h
  unfold dirPrefix
  split
  · exact ⟨s, rfl⟩
  · exact ⟨s ++ "/", by rw [Text.bytesOf_append]; rfl⟩

theorem isUtf8_join {base : Path} (h : IsUtf8 base) (name : String) : IsUtf8 (join base name) := by
  obtain ⟨s, hs⟩ := isUtf8_dirPrefix h
  exact ⟨s ++ name, by rw [join, hs, Text.bytesOf_append]⟩

theorem isUtf8_of_written {codexHome path : Path} (hhome : IsUtf8 codexHome) {i : Installation}
    (h : path ∈ writtenPaths codexHome i) : IsUtf8 path := by
  unfold writtenPaths at h
  rcases List.mem_append.mp h with h | h
  · rcases List.mem_cons.mp h with rfl | h
    · exact isUtf8_join hhome _
    · rw [List.mem_singleton.mp h]
      exact isUtf8_join (isUtf8_join hhome _) _
  · split at h
    · rw [List.mem_singleton.mp h]
      exact isUtf8_join (isUtf8_join hhome _) _
    · cases h

/-- What is in a directory of the home. -/
theorem join_join (codexHome : Path) {dir : String} (hne : bytesOf dir ≠ [])
    (hslash : (bytesOf dir).getLast? ≠ some slash) (name : String) :
    join (join codexHome dir) name =
      dirPrefix codexHome ++ (bytesOf dir ++ slash :: bytesOf name) := by
  have hlast : (dirPrefix codexHome ++ bytesOf dir).getLast? = (bytesOf dir).getLast? :=
    List.getLast?_append_of_ne_nil _ hne
  have hdir : dirPrefix (join codexHome dir) = join codexHome dir ++ [slash] := by
    refine if_neg ?_
    rintro (hempty | hend)
    · rw [join, List.isEmpty_iff, List.append_eq_nil_iff] at hempty
      exact hne hempty.2
    · rw [join, hlast] at hend
      exact hslash hend
  rw [join, hdir, join, List.append_assoc, List.append_assoc, List.singleton_append]

theorem profilePath_eq (codexHome : Path) :
    profilePath codexHome = dirPrefix codexHome ++ bytesOf "llmup.config.toml" := rfl

theorem agentPath_eq (codexHome : Path) (model : String) : agentPath codexHome model =
    dirPrefix codexHome ++ (bytesOf "agents" ++ slash :: bytesOf (agentFileName model)) :=
  join_join codexHome (by decide) (by decide) _

theorem statePath_eq (codexHome : Path) : statePath codexHome =
    dirPrefix codexHome ++ bytesOf "llmup/state.json" :=
  (join_join codexHome (by decide) (by decide) _).trans rfl

theorem derivedCatalogPath_eq (codexHome : Path) : derivedCatalogPath codexHome =
    dirPrefix codexHome ++ bytesOf "llmup/model-catalog.json" :=
  (join_join codexHome (by decide) (by decide) _).trans rfl

theorem profilePath_mem (codexHome : Path) (i : Installation) :
    profilePath codexHome ∈ writtenPaths codexHome i := by simp [writtenPaths]

theorem agentPath_mem (codexHome : Path) (i : Installation) :
    agentPath codexHome i.model.name ∈ writtenPaths codexHome i := by simp [writtenPaths]

theorem derivedCatalogPath_mem (codexHome : Path) {i : Installation}
    (h : i.bundledCatalogJson.isSome) : derivedCatalogPath codexHome ∈ writtenPaths codexHome i := by
  simp [writtenPaths, h]

/-- The manifest is none of the files of an install, and none of their copies. -/
theorem statePath_ne {codexHome path : Path} {i : Installation}
    (h : path ∈ writtenPaths codexHome i) :
    statePath codexHome ≠ path ∧ statePath codexHome ≠ backupPath path := by
  have hcases : path = profilePath codexHome ∨ path = agentPath codexHome i.model.name ∨
      path = derivedCatalogPath codexHome := by
    unfold writtenPaths at h
    split at h
    · simpa using h
    · have h : path = profilePath codexHome ∨ path = agentPath codexHome i.model.name := by
        simpa using h
      exact h.imp_right .inl
  unfold backupPath
  rw [statePath_eq]
  rcases hcases with rfl | rfl | rfl
  · rw [profilePath_eq, List.append_assoc]
    exact ⟨fun heq => absurd (List.append_cancel_left heq) (by decide),
      fun heq => absurd (List.append_cancel_left heq) (by decide)⟩
  · rw [agentPath_eq, List.append_assoc]
    constructor
    · intro heq
      exact absurd (List.cons_eq_cons.mp (List.append_cancel_left heq)).1 (by decide)
    · intro heq
      exact absurd (List.cons_eq_cons.mp (List.append_cancel_left heq)).1 (by decide)
  · rw [derivedCatalogPath_eq, List.append_assoc]
    exact ⟨fun heq => absurd (List.append_cancel_left heq) (by decide),
      fun heq => absurd (List.append_cancel_left heq) (by decide)⟩

theorem nodup_writtenPaths (codexHome : Path) (i : Installation) :
    (writtenPaths codexHome i).Nodup := by
  have hagent : profilePath codexHome ≠ agentPath codexHome i.model.name := by
    rw [profilePath_eq, agentPath_eq]
    intro heq
    exact absurd (List.cons_eq_cons.mp (List.append_cancel_left heq)).1 (by decide)
  have hprofile : profilePath codexHome ≠ derivedCatalogPath codexHome := by
    rw [profilePath_eq, derivedCatalogPath_eq]
    exact fun heq => absurd (List.append_cancel_left heq) (by decide)
  have hcatalog : agentPath codexHome i.model.name ≠ derivedCatalogPath codexHome := by
    rw [derivedCatalogPath_eq, agentPath_eq]
    intro heq
    exact absurd (List.cons_eq_cons.mp (List.append_cancel_left heq)).1 (by decide)
  unfold writtenPaths
  split
  · simp [hagent, hprofile, hcatalog]
  · simp [hagent]

/-! ## An install -/

theorem isSome_written (path : Path) (contents : String) (fs : FileSystem Path) :
    (writeConfigFileAtomic path contents fs path).isSome := by
  rw [writeConfigFileAtomic, FileSystem.replace_self]
  rfl

theorem isSome_write {path other : Path} (contents : String) {fs : FileSystem Path}
    (h : (fs other).isSome) : (writeConfigFileAtomic path contents fs other).isSome :=
  fs.isSome_replace _ h

theorem readPreviousManagedFiles_congr (env : SetupEnv) {fs fs' : FileSystem Path}
    {stateFile : Path} (h : fs' stateFile = fs stateFile) :
    readPreviousManagedFiles env fs' stateFile = readPreviousManagedFiles env fs stateFile := by
  unfold readPreviousManagedFiles readToString
  rw [h]

/-- What holds of the files while an install writes them: those that were there are there, and the
manifest is not touched. -/
structure Keeps (codexHome : Path) (fs fs' : FileSystem Path) : Prop where
  state : fs' (statePath codexHome) = fs (statePath codexHome)
  present : ∀ path, (fs path).isSome → (fs' path).isSome

theorem Keeps.refl (codexHome : Path) (fs : FileSystem Path) : Keeps codexHome fs fs :=
  ⟨rfl, fun _ h => h⟩

theorem Keeps.write {codexHome : Path} {fs fs' : FileSystem Path} {path : Path}
    {i : Installation} (h : Keeps codexHome fs fs') (hpath : path ∈ writtenPaths codexHome i)
    (contents : String) : Keeps codexHome fs (writeConfigFileAtomic path contents fs') := by
  obtain ⟨hne, hbackup⟩ := statePath_ne hpath
  exact ⟨(fs'.replace_of_ne _ hne hbackup).trans h.state,
    fun other hother => isSome_write _ (h.present other hother)⟩

theorem installCatalog_spec {env : SetupEnv} {codexHome : Path} {i : Installation}
    {fs fs' : FileSystem Path} (h : installCatalog env codexHome i fs = .ok fs') :
    Keeps codexHome fs fs' ∧
      (i.bundledCatalogJson.isSome → (fs' (derivedCatalogPath codexHome)).isSome) := by
  unfold installCatalog at h
  cases hraw : i.bundledCatalogJson with
  | none =>
    rw [hraw] at h
    cases h
    exact ⟨.refl _ _, nofun⟩
  | some raw =>
    have hcatalog := derivedCatalogPath_mem codexHome (i := i) (hraw ▸ rfl)
    rw [hraw] at h
    dsimp only at h
    unfold deriveAndWriteCatalog at h
    split at h
    · cases h
    · cases h
      exact ⟨(Keeps.refl codexHome fs).write hcatalog _, fun _ => isSome_written _ _ _⟩

/-- **What an install does**: it writes its files, and a manifest of them and of what the manifest
before it names. -/
theorem install_spec {env : SetupEnv} {codexHome : Path} {i : Installation}
    {fs fs' : FileSystem Path} (h : install env codexHome i fs = .ok fs') :
    fs' (statePath codexHome) = some (bytesOf (generateStateContent i.codexVersion
        (unionBehind ((writtenPaths codexHome i).map toStringLossy)
          (readPreviousManagedFiles env fs (statePath codexHome))) i.createdAt)) ∧
      (∀ path ∈ writtenPaths codexHome i, (fs' path).isSome) ∧
      ∀ path, (fs path).isSome → (fs' path).isSome := by
  have hprofile := profilePath_mem codexHome i
  have hagent := agentPath_mem codexHome i
  obtain ⟨fs₁, hfs₁, hwritten⟩ := Result.bind_ok.mp h
  obtain ⟨hkeeps₁, hcatalog⟩ := installCatalog_spec hfs₁
  dsimp only at hwritten
  generalize buildProfileContent _ _ _ = profileContent at hwritten
  generalize generateAgentContent _ _ _ = agentContent at hwritten
  have hkeeps := (hkeeps₁.write hprofile profileContent).write hagent agentContent
  have hread := readPreviousManagedFiles_congr env hkeeps.state
  have hstate := Except.ok.inj hwritten
  rw [hread] at hstate
  subst hstate
  refine ⟨FileSystem.replace_self .., fun path hpath => isSome_write _ ?_,
    fun path hpath => isSome_write _ (hkeeps.present path hpath)⟩
  unfold writtenPaths at hpath
  rcases List.mem_append.mp hpath with hpath | hpath
  · rcases List.mem_cons.mp hpath with rfl | hpath
    · exact isSome_write _ (isSome_written _ _ _)
    · rw [List.mem_singleton.mp hpath]
      exact isSome_written _ _ _
  · split at hpath
    · next hraw =>
      rw [List.mem_singleton.mp hpath]
      exact isSome_write _ (isSome_write _ (hcatalog hraw))
    · cases hpath

/-! ## Runs -/

def manifestOf (env : SetupEnv) (codexHome : Path) (fs : FileSystem Path) : Option Value :=
  (readToString fs (statePath codexHome)).bind (fromStr env.serde)

/-- The manifest can be read, once there is one, and names the files of the installs, each once; they
are all there. -/
structure Tracks (env : SetupEnv) (codexHome : Path) (installs : List Installation)
    (files : List String) (fs : FileSystem Path) : Prop where
  manifest : installs ≠ [] → ∃ version created,
    manifestOf env codexHome fs = some (.object (manifestFields version files created))
  previous : readPreviousManagedFiles env fs (statePath codexHome) = files
  once : files.Nodup
  exact : ∀ file, file ∈ files ↔
    ∃ i ∈ installs, file ∈ (writtenPaths codexHome i).map toStringLossy
  present : ∀ i ∈ installs, ∀ path ∈ writtenPaths codexHome i, (fs path).isSome

/-- The two strings that an install puts between quotes fit there. -/
def Plain (i : Installation) : Prop :=
  isLiteralBody i.codexVersion = true ∧ isLiteralBody i.createdAt = true

instance (i : Installation) : Decidable (Plain i) := inferInstanceAs (Decidable (_ ∧ _))

theorem manifestOf_install {env : SetupEnv} {codexHome : Path} {i : Installation}
    {fs fs' : FileSystem Path} (hplain : Plain i) (h : install env codexHome i fs = .ok fs') :
    ∃ version created, manifestOf env codexHome fs' = some (.object (manifestFields version
      (unionBehind ((writtenPaths codexHome i).map toStringLossy)
        (readPreviousManagedFiles env fs (statePath codexHome))) created)) := by
  obtain ⟨hstate, -, -⟩ := install_spec h
  have hne : unionBehind ((writtenPaths codexHome i).map toStringLossy)
      (readPreviousManagedFiles env fs (statePath codexHome)) ≠ [] := by
    have hmem : toStringLossy (profilePath codexHome) ∈
        unionBehind ((writtenPaths codexHome i).map toStringLossy)
          (readPreviousManagedFiles env fs (statePath codexHome)) :=
      mem_unionBehind.mpr (.inl (List.mem_map_of_mem (profilePath_mem codexHome i)))
    exact List.ne_nil_of_mem hmem
  obtain ⟨version, created, hread⟩ :=
    fromStr_generateStateContent env.serde hplain.1 hplain.2 hne
  refine ⟨version, created, ?_⟩
  rw [manifestOf, readToString, hstate, Option.bind_some, Lines.fromUtf8_bytesOf,
    Option.bind_some, hread]

theorem nodup_writtenFiles {codexHome : Path} (hhome : IsUtf8 codexHome) (i : Installation) :
    ((writtenPaths codexHome i).map toStringLossy).Nodup := by
  refine List.Nodup.map_on (fun path hpath other hother heq => ?_) (nodup_writtenPaths codexHome i)
  rw [← bytesOf_toStringLossy (isUtf8_of_written hhome hpath), heq,
    bytesOf_toStringLossy (isUtf8_of_written hhome hother)]

theorem readPreviousManagedFiles_of_manifest {env : SetupEnv} {codexHome : Path}
    {fs : FileSystem Path} {version created : String} {files : List String}
    (h : manifestOf env codexHome fs = some (.object (manifestFields version files created))) :
    readPreviousManagedFiles env fs (statePath codexHome) = files := by
  rw [manifestOf] at h
  rw [readPreviousManagedFiles, h]
  dsimp only
  rw [getArray_manifestFields, Option.getD_some, filterMap_asStr]

/-- A home without a manifest. -/
theorem Tracks.start (env : SetupEnv) {codexHome : Path} {fs : FileSystem Path}
    (h : fs (statePath codexHome) = none) : Tracks env codexHome [] [] fs := by
  refine ⟨fun hne => absurd rfl hne, ?_, List.nodup_nil, by simp, by simp⟩
  unfold readPreviousManagedFiles readToString
  rw [h]
  rfl

/-- An install, after those before it. -/
theorem Tracks.install {env : SetupEnv} {codexHome : Path} (hhome : IsUtf8 codexHome)
    {installs : List Installation} {files : List String} {i : Installation}
    {fs fs' : FileSystem Path} (h : Tracks env codexHome installs files fs) (hplain : Plain i)
    (hinstall : install env codexHome i fs = .ok fs') :
    Tracks env codexHome (installs ++ [i])
      (unionBehind ((writtenPaths codexHome i).map toStringLossy) files) fs' := by
  obtain ⟨version, created, hmanifest⟩ := manifestOf_install hplain hinstall
  rw [h.previous] at hmanifest
  obtain ⟨-, hwritten, hpresent⟩ := install_spec hinstall
  refine ⟨fun _ => ⟨version, created, hmanifest⟩, readPreviousManagedFiles_of_manifest hmanifest,
    nodup_unionBehind (nodup_writtenFiles hhome i) _, fun file => ?_, fun j hj path hpath => ?_⟩
  · rw [mem_unionBehind, h.exact]
    simp only [List.mem_append, List.mem_singleton]
    constructor
    · rintro (hnew | ⟨j, hj, hold⟩)
      · exact ⟨i, .inr rfl, hnew⟩
      · exact ⟨j, .inl hj, hold⟩
    · rintro ⟨j, hj | rfl, hfile⟩
      · exact .inr ⟨j, hj, hfile⟩
      · exact .inl hfile
  · rcases List.mem_append.mp hj with hj | hj
    · exact hpresent path (h.present j hj path hpath)
    · rw [List.mem_singleton.mp hj] at hpath
      exact hwritten path hpath

/-- **A run of installs tracks its files.** -/
theorem run_tracks {env : SetupEnv} {codexHome : Path} (hhome : IsUtf8 codexHome)
    {installs : List Installation} {fs fs' : FileSystem Path}
    (hfresh : fs (statePath codexHome) = none)
    (hrun : Run (InstallStep env codexHome) fs installs fs') :
    (∀ i ∈ installs, Plain i) → ∃ files, Tracks env codexHome installs files fs' := by
  refine hrun.invariant_history (I := fun installs fs => (∀ i ∈ installs, Plain i) →
    ∃ files, Tracks env codexHome installs files fs) ?_ ?_
  · exact fun _ => ⟨[], .start env hfresh⟩
  · intro installs t u i ih hstep hplain
    obtain ⟨files, htracks⟩ := ih fun j hj => hplain j (List.mem_append_left _ hj)
    exact ⟨_, htracks.install hhome
      (hplain i (List.mem_append_right _ (List.mem_singleton_self _))) hstep⟩

def Installed (codexHome : Path) (installs : List Installation) (path : Path) : Prop :=
  ∃ i ∈ installs, path ∈ writtenPaths codexHome i

theorem Tracks.mem_files {env : SetupEnv} {codexHome : Path} (hhome : IsUtf8 codexHome)
    {installs : List Installation} {files : List String} {fs : FileSystem Path}
    (h : Tracks env codexHome installs files fs) (path : Path) :
    path ∈ files.map bytesOf ↔ Installed codexHome installs path := by
  rw [List.mem_map]
  constructor
  · rintro ⟨file, hfile, rfl⟩
    obtain ⟨i, hi, hwritten⟩ := (h.exact file).mp hfile
    obtain ⟨path, hpath, rfl⟩ := List.mem_map.mp hwritten
    rw [bytesOf_toStringLossy (isUtf8_of_written hhome hpath)]
    exact ⟨i, hi, hpath⟩
  · rintro ⟨i, hi, hpath⟩
    exact ⟨toStringLossy path, (h.exact _).mpr ⟨i, hi, List.mem_map_of_mem hpath⟩,
      bytesOf_toStringLossy (isUtf8_of_written hhome hpath)⟩

/-- **The manifest tracks every managed file.** While what the installs are told fits between quotes,
the manifest is JSON and lists the files that they have written, each once; and an uninstall removes
these files and the manifest, and nothing else. -/
theorem uninstall_removes_installed {env : SetupEnv} {codexHome : Path}
    (hhome : IsUtf8 codexHome) {installs : List Installation} {fs fs' : FileSystem Path}
    (hfresh : fs (statePath codexHome) = none) (hne : installs ≠ [])
    (hrun : Run (InstallStep env codexHome) fs installs fs')
    (hplain : ∀ i ∈ installs, Plain i) :
    ∃ (manifest : Value) (files : List String), manifestOf env codexHome fs' = some manifest ∧
      manifest.getArray "managed_files" = some (files.map .string) ∧ files.Nodup ∧
      (∀ path, path ∈ files.map bytesOf ↔ Installed codexHome installs path) ∧
      (∀ path, Installed codexHome installs path → (fs' path).isSome) ∧
      ∃ fs'' printed, runUninstall env codexHome fs' = .ok (fs'', printed) ∧
        (∀ path, path = statePath codexHome ∨ Installed codexHome installs path →
          fs'' path = none) ∧
        ∀ path, path ≠ statePath codexHome → ¬Installed codexHome installs path →
          fs'' path = fs' path := by
  obtain ⟨files, htracks⟩ := run_tracks hhome hfresh hrun hplain
  obtain ⟨version, created, hmanifest⟩ := htracks.manifest hne
  have hfiles := htracks.mem_files hhome
  refine ⟨_, files, hmanifest, getArray_manifestFields _ _ _, htracks.once, hfiles, ?_, ?_⟩
  · rintro path ⟨i, hi, hpath⟩
    exact htracks.present i hi path hpath
  obtain ⟨content, hcontent, hread⟩ := Option.bind_eq_some_iff.mp hmanifest
  obtain ⟨bytes, hbytes, hutf8⟩ := Option.bind_eq_some_iff.mp hcontent
  obtain ⟨printed, huninstall⟩ : ∃ printed, runUninstall env codexHome fs' =
      .ok ((fs'.removeAll (files.map bytesOf)).remove (statePath codexHome), printed) := by
    unfold runUninstall
    simp only [hbytes, hutf8, hread, getArray_manifestFields, Option.getD_some, filterMap_asStr]
    exact ⟨_, rfl⟩
  refine ⟨_, printed, huninstall, ?_, ?_⟩
  · intro path hpath
    by_cases hstate : path = statePath codexHome
    · rw [hstate, FileSystem.remove, Function.update_self]
    · rw [FileSystem.remove, Function.update_of_ne hstate, FileSystem.removeAll_apply,
        if_pos ((hfiles path).mpr (hpath.resolve_left hstate))]
  · intro path hstate hpath
    rw [FileSystem.remove, Function.update_of_ne hstate, FileSystem.removeAll_apply,
      if_neg fun hmem => hpath ((hfiles path).mp hmem)]

/-- A manifest that is not JSON is of no use. -/
theorem unreadable_manifest {env : SetupEnv} {codexHome : Path} {fs : FileSystem Path}
    {content : String} (hstate : fs (statePath codexHome) = some (bytesOf content))
    (hread : fromStr env.serde content = none) :
    manifestOf env codexHome fs = none ∧
      ∀ fs' printed, runUninstall env codexHome fs ≠ .ok (fs', printed) := by
  refine ⟨?_, fun fs' printed h => ?_⟩
  · rw [manifestOf, readToString, hstate, Option.bind_some, Lines.fromUtf8_bytesOf,
      Option.bind_some, hread]
  · unfold runUninstall at h
    simp only [hstate, Lines.fromUtf8_bytesOf, hread] at h
    cases h

theorem exists_install (env : SetupEnv) (codexHome : Path) {i : Installation}
    (h : ∀ raw ∈ i.bundledCatalogJson, (fromStr env.serde raw).isSome) (fs : FileSystem Path) :
    ∃ fs', InstallStep env codexHome fs i fs' := by
  obtain ⟨fs₁, hfs₁⟩ : ∃ fs₁, installCatalog env codexHome i fs = .ok fs₁ := by
    unfold installCatalog
    cases hraw : i.bundledCatalogJson with
    | none => exact ⟨fs, rfl⟩
    | some raw =>
      obtain ⟨catalog, hcatalog⟩ := Option.isSome_iff_exists.mp (h raw hraw)
      simp only [deriveAndWriteCatalog, hcatalog]
      exact ⟨_, rfl⟩
  exact ⟨_, Result.bind_ok.mpr ⟨fs₁, hfs₁, rfl⟩⟩

def exampleEnv : SetupEnv := ⟨⟨some, fun _ => ""⟩, Value.toJson⟩

def exampleHome : Path := bytesOf "/home/u/.codex"

def firstInstall : Installation where
  baseUrl := "http://127.0.0.1:8080/openai/v1"
  model := ⟨"gpt-5", by decide⟩
  codexVersion := "codex-cli 0.50.0"
  createdAt := "2026-01-01T00:00:00Z"

def catalogInstall : Installation where
  baseUrl := "http://127.0.0.1:8080/openai/v1"
  model := ⟨"o3", by decide⟩
  bundledCatalogJson := some "\x7b\"models\":[]\x7d"
  codexVersion := "unknown"
  createdAt := "2026-01-02T00:00:00Z"

/-- The agent of the first install and the catalog of the second one are gone in the end. -/
theorem two_installs_removed : ∃ fs fs' printed,
    Run (InstallStep exampleEnv exampleHome) (fun _ => none) [firstInstall, catalogInstall] fs ∧
      runUninstall exampleEnv exampleHome fs = .ok (fs', printed) ∧
      fs' (agentPath exampleHome "gpt-5") = none ∧
      fs' (derivedCatalogPath exampleHome) = none := by
  obtain ⟨fs₁, hfirst⟩ := exists_install exampleEnv exampleHome (i := firstInstall) nofun
    fun _ => none
  obtain ⟨fs₂, hsecond⟩ := exists_install exampleEnv exampleHome (i := catalogInstall)
    (by decide +kernel) fs₁
  have hrun : Run (InstallStep exampleEnv exampleHome) (fun _ => none)
      [firstInstall, catalogInstall] fs₂ := .cons hfirst (.cons hsecond (.nil _))
  obtain ⟨_, _, -, -, -, -, -, fs', printed, huninstall, hgone, -⟩ :=
    uninstall_removes_installed (show IsUtf8 exampleHome from ⟨_, rfl⟩) rfl (by decide) hrun
      (by decide +kernel)
  refine ⟨fs₂, fs', printed, hrun, huninstall, hgone _ (.inr ?_), hgone _ (.inr ?_)⟩
  · exact ⟨firstInstall, List.mem_cons_self, agentPath_mem _ _⟩
  · exact ⟨catalogInstall, by simp, derivedCatalogPath_mem _ rfl⟩

def quotedInstall : Installation := { firstInstall with codexVersion := "codex-cli \"dev\"" }

/-- The manifest that it is put into cannot be read, and nothing can be removed by it. -/
theorem quotedInstall_loses_manifest : ∃ fs,
    Run (InstallStep exampleEnv exampleHome) (fun _ => none) [quotedInstall] fs ∧
      manifestOf exampleEnv exampleHome fs = none ∧
      ∀ fs' printed, runUninstall exampleEnv exampleHome fs ≠ .ok (fs', printed) := by
  obtain ⟨fs, hinstall⟩ := exists_install exampleEnv exampleHome (i := quotedInstall) nofun
    fun _ => none
  have hversion : quotedInstall.codexVersion =
      String.ofList (escapeChars "codex-cli ".toList ++ '"' :: 'd' :: ['e', 'v', '"']) := by decide
  obtain ⟨hstate, -, -⟩ := install_spec hinstall
  rw [hversion] at hstate
  exact ⟨fs, .cons hinstall (.nil _), unreadable_manifest hstate
    (fromStr_generateStateContent_quote _ _ (by decide) _ _ _)⟩

end LlmUniversalProxy.UserTools
