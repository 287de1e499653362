/-
# ChunkVault.Proofs.Config.Loading -- what settings are loaded, and what they depend on

Loading has two steps (`Settings.load_eq`): settings are found, and they are put in order. Where a file stands at the
configured path, the first step looks at the file and at nothing else (`Settings.ofFileOrEnvironment_of_present`), so
the environment is left with the second, for its connection string; `load_heeds_file` tells this of any two
environments. A file that is not there is the only thing that sends the first step to the environment.

What is loaded makes sense in every way that is checked (`load_eq_ok_iff`). The idle time of a connection is not
among the times that are: settings without any are loaded as well (`load_without_idle_time`).
-/
import ChunkVault.Config.Load
import ChunkVault.Proofs.Config.Validity

namespace ChunkVault.Config

/-! ## Files that are there -/

/-- There is something at the path, whether or not it can be read. -/
def Present (read : String → Except ReadError Bytes) (path : String) : Prop := read path ≠ .error .missing

instance (read : String → Except ReadError Bytes) (path : String) : Decidable (Present read path) :=
  inferInstanceAs (Decidable (_ ≠ _))

namespace Directory

/-- The path leads down from the directory to something that is known. -/
structure Holds (d : Directory) (path : String) : Prop where
  nonempty : path ≠ ""
  relative : path.startsWith "/" = false
  down : ".." ∉ names path
  known : d.node? (names path) ≠ none

/-- A place is known if it is where the directory is, or on the way to something in the directory. -/
theorem node?_ne_none_iff {d : Directory} {place : List String} :
    d.node? place ≠ none ↔ place = [] ∨ ∃ x ∈ d.nodes, place <+: x.1 := by
  unfold node?
  by_cases hempty : place = []
  · subst hempty
    exact ⟨fun _ => .inl rfl, fun _ => nofun⟩
  · rw [if_neg (by simpa using hempty), or_iff_right hempty]
    cases hfound : d.nodes.lookup place with
    | some node =>
      obtain ⟨before, after, hnodes, -⟩ := List.lookup_eq_some_iff.mp hfound
      refine ⟨fun _ => ⟨(place, node), ?_, List.prefix_refl place⟩, fun _ => nofun⟩
      rw [hnodes]
      exact List.mem_append_right _ List.mem_cons_self
    | none =>
      simp only [ne_eq, ite_eq_right_iff, reduceCtorEq, imp_false, Decidable.not_not, List.any_eq_true,
        List.isPrefixOf_iff_prefix]

/-- On the way to something known there is something known. -/
theorem node?_of_append {d : Directory} {place rest : List String} (h : d.node? (place ++ rest) ≠ none) :
    d.node? place ≠ none := by
  rw [node?_ne_none_iff] at h ⊢
  obtain hempty | ⟨x, hx, hprefix⟩ := h
  · exact .inl (List.append_eq_nil_iff.mp hempty).1
  · exact .inr ⟨x, hx, (List.prefix_append place rest).trans hprefix⟩

/-- Names that lead to something known are not followed to where nothing is. -/
theorem follow_ne_missing {d : Directory} {place rest : List String} (hdown : ".." ∉ rest)
    (h : d.node? (place ++ rest) ≠ none) : d.follow place rest ≠ .error .missing := by
  induction rest generalizing place with
  | nil => exact nofun
  | cons name rest ih =>
    obtain ⟨hname, hrest⟩ := not_or.mp (mt List.mem_cons.mpr hdown)
    have hnext : d.node? (place ++ [name] ++ rest) ≠ none := by rwa [List.append_assoc]
    have hhere := node?_of_append hnext
    unfold follow
    rw [if_neg (Ne.symm hname)]
    split
    · exact nofun
    · split
      · next hnone => exact absurd hnone hhere
      · exact ih hrest hnext
      · split <;> exact nofun

/-- **What a directory holds is there** when it is read. -/
theorem Holds.present {d : Directory} {path : String} (h : d.Holds path) : Present d.read path := by
  have hfound : d.follow [] (names path) ≠ .error .missing := d.follow_ne_missing h.down h.known
  unfold Present read
  rw [if_neg (by simpa using h.nonempty)]
  split
  · exact nofun
  · simp only [h.relative, Bool.false_eq_true, if_false]
    split
    · next e he => exact fun hmissing => hfound (he.trans (congrArg _ (Except.error.inj hmissing)))
    · exact nofun
    · split <;> exact nofun

end Directory

/-- The error is that of the file at a path, and not that there is none. -/
def LoadError.OfFile (path : String) : LoadError → Prop
  | .unreadable place e => place = path ∧ e ≠ .missing
  | .unparsable place _ => place = path
  | .invalid _ => False

namespace Settings

variable {read : String → Except ReadError Bytes} {path : String} {env : Environment} {fallback fallback' : Option String}
  {s : Settings}

/-- The settings of the file at a path, which is looked at alone. -/
def atPath (read : String → Except ReadError Bytes) (path : String) : Except LoadError Settings :=
  match read path with
  | .ok content => ofFile path content
  | .error e => .error (.unreadable path e)

/-- A file that is there is all that settings are taken from. -/
theorem ofFileOrEnvironment_of_present (h : Present read env.configPath) :
    ofFileOrEnvironment read env = atPath read env.configPath := by
  unfold ofFileOrEnvironment atPath
  cases hread : read env.configPath with
  | ok content => rfl
  | error e =>
    cases e with
    | missing => exact absurd hread h
    | _ => rfl

theorem ofFileOrEnvironment_of_missing (h : read env.configPath = .error .missing) :
    ofFileOrEnvironment read env = .ok (ofEnvironment env) := by
  rw [ofFileOrEnvironment, h]

/-- A file that is there and gives no settings has an error of its own. -/
theorem atPath_error {e : LoadError} (hpresent : Present read path) (h : atPath read path = .error e) : e.OfFile path := by
  unfold atPath at h
  cases hread : read path with
  | ok content =>
    rw [hread] at h
    simp only [ofFile] at h
    split at h
    · cases h
      exact ⟨rfl, nofun⟩
    · split at h
      · cases h
      · cases h
        rfl
  | error e' =>
    rw [hread] at h
    cases h
    exact ⟨rfl, fun hmissing => hpresent (hmissing ▸ hread)⟩

/-! ## Loading -/

/-- Settings as they are put to use: completed, unless there is something wrong with them then. -/
def accepted (fallback : Option String) (s : Settings) : Except LoadError Settings :=
  match (s.completed fallback).fault? with
  | some e => .error (.invalid e)
  | none => .ok (s.completed fallback)

/-- **Settings are found, and then accepted.** -/
theorem load_eq (read : String → Except ReadError Bytes) (env : Environment) (dotenv : String) :
    load read env dotenv = (ofFileOrEnvironment read (Dotenv.apply env dotenv)).bind
      (accepted (Dotenv.apply env dotenv).databaseUrl?) := by
  unfold load
  simp only [normalize_eq]
  cases ofFileOrEnvironment read (Dotenv.apply env dotenv) with
  | error e => rfl
  | ok s =>
    simp only [verdict, accepted, Except.bind]
    cases (s.completed (Dotenv.apply env dotenv).databaseUrl?).fault? <;> rfl

theorem accepted_eq_ok_iff {s' : Settings} : s.accepted fallback = .ok s' ↔ s' = s.completed fallback ∧ s'.Valid := by
  unfold accepted
  constructor
  · intro h
    split at h
    · cases h
    · next hnone =>
      cases h
      exact ⟨rfl, completed_fault?_eq_none_iff.mp hnone⟩
  · rintro ⟨rfl, hvalid⟩
    rw [completed_fault?_eq_none_iff.mpr hvalid]

theorem accepted_congr (h : Text.isBlankText s.database.url → fallback = fallback') :
    s.accepted fallback = s.accepted fallback' := by
  rw [accepted, accepted, completed_congr h]

/-- **What is loaded makes sense, and what makes sense is loaded**: the settings that are found, in the file or in
the environment, with what is missing put in. There is a host, a port, and a number of threads; the connection string
names a database of a kind that can be used; a pool of connections can be held; and the times for connecting and for
getting a connection are not zero. -/
theorem load_eq_ok_iff (read : String → Except ReadError Bytes) (env : Environment) (dotenv : String) (s : Settings) :
    load read env dotenv = .ok s ↔
      ∃ found, ofFileOrEnvironment read (Dotenv.apply env dotenv) = .ok found ∧
        s = found.completed (Dotenv.apply env dotenv).databaseUrl? ∧ s.Valid := by
  rw [load_eq]
  cases ofFileOrEnvironment read (Dotenv.apply env dotenv) with
  | error e =>
    refine ⟨nofun, ?_⟩
    rintro ⟨found, hfound, -⟩
    cases hfound
  | ok found =>
    refine accepted_eq_ok_iff.trans ⟨fun h => ⟨found, rfl, h⟩, ?_⟩
    rintro ⟨found', hfound, h⟩
    cases hfound
    exact h

/-- **The idle time is not checked.** A file that sets it to no seconds at all is loaded. -/
theorem load_without_idle_time :
    let d : Directory := .ofList [("config.toml", .file "[database]\nidle_timeout_secs = 0\n".toUTF8.toList)]
    let env : Environment := [("DATABASE_URL", "postgres://localhost/files")]
    ∃ s, load d.read env "" = .ok s ∧ s.database.idleTimeout = 0 := by
  intro d env
  have h : (load d.read env "").toOption.map (·.database.idleTimeout) = some 0 := by decide +kernel
  cases hload : load d.read env "" with
  | error e =>
    rw [hload] at h
    cases h
  | ok s =>
    rw [hload] at h
    exact ⟨s, rfl, Option.some.inj h⟩

/-! ## Two environments -/

/-- A file that is there leaves the environment to the second step. -/
theorem load_of_present {dotenv : String} (h : Present read path) (hpath : (Dotenv.apply env dotenv).configPath = path) :
    load read env dotenv = (atPath read path).bind (accepted (Dotenv.apply env dotenv).databaseUrl?) := by
  subst hpath
  rw [load_eq, ofFileOrEnvironment_of_present h]

/-- **A file shuts the environment out.** What a directory holds at a path is there, and of a file that is there, at
the path that is configured when the variables of `.env` are set, the following can be said. If it cannot be read, or
gives no settings, then that is the error, in every environment. In two environments the same is loaded, or refused
with the same error, if they have the same connection string; that does not count either if the file gives settings
with one of their own. Whatever else the environments have, a host, a port and a number of threads for the server
among them, does not count. Where there is no file, and only there, the settings are those of the environment. -/
theorem load_heeds_file :
    (∀ (d : Directory) (path : String), d.Holds path → Present d.read path) ∧
    ∀ (read : String → Except ReadError Bytes) (path : String),
      (Present read path → ∀ (env : Environment) (dotenv : String), (Dotenv.apply env dotenv).configPath = path →
        (∀ e, atPath read path = .error e → e.OfFile path ∧ load read env dotenv = .error e) ∧
        ∀ (env' : Environment) (dotenv' : String), (Dotenv.apply env' dotenv').configPath = path →
          (∀ s, atPath read path = .ok s → Text.isBlankText s.database.url →
            (Dotenv.apply env dotenv).databaseUrl? = (Dotenv.apply env' dotenv').databaseUrl?) →
          load read env dotenv = load read env' dotenv') ∧
      (¬Present read path → ∀ (env : Environment) (dotenv : String), (Dotenv.apply env dotenv).configPath = path →
        load read env dotenv =
          (ofEnvironment (Dotenv.apply env dotenv)).accepted (Dotenv.apply env dotenv).databaseUrl?) := by
  refine ⟨fun d path h => h.present, fun read path => ⟨fun hpresent env dotenv hpath => ⟨fun e he => ?_, ?_⟩, ?_⟩⟩
  · refine ⟨atPath_error hpresent he, ?_⟩
    rw [load_of_present hpresent hpath, he]
    rfl
  · intro env' dotenv' hpath' hurl
    rw [load_of_present hpresent hpath, load_of_present hpresent hpath']
    cases hfile : atPath read path with
    | error e => rfl
    | ok s => exact accepted_congr (hurl s hfile)
  · intro habsent env dotenv hpath
    subst hpath
    rw [load_eq, ofFileOrEnvironment_of_missing (not_not.mp habsent)]
    rfl

/-- A directory with a file that has a connection string of its own, and with one that is no document: the environment
has nothing to say to either of them, and its settings are taken where there is no file. -/
theorem load_heeds_file_two_environments :
    let d : Directory := .ofList
      [("config.toml", .file "[database]\nurl = \"postgres://localhost/files\"\n".toUTF8.toList),
        ("broken.toml", .file "[database".toUTF8.toList)]
    let env : Environment :=
      [("SERVER_HOST", "0.0.0.0"), ("SERVER_PORT", "0"), ("DATABASE_URL", "mysql://localhost/files")]
    let broken : Environment := ("CONFIG_PATH", "broken.toml") :: env
    let absent : Environment := ("CONFIG_PATH", "absent.toml") :: env
    d.Holds "config.toml" ∧ load d.read env "TOKIO_WORKER_THREADS=9" = load d.read [] "" ∧
      load d.read broken "" = .error (.unparsable "broken.toml" .grammar) ∧
      load d.read absent "" = .error (.invalid .noPort) := by
  intro d env broken absent
  obtain ⟨hheld, hheeds⟩ := load_heeds_file
  have hholds : d.Holds "config.toml" := ⟨by decide, by decide +kernel, by decide, by decide⟩
  refine ⟨hholds, ?_, ?_, ?_⟩
  · have hown : (atPath d.read "config.toml").toOption.map (fun s => Text.isBlankText s.database.url) = some false := by
      decide +kernel
    obtain ⟨-, htwo⟩ :=
      (hheeds d.read "config.toml").1 (hheld d "config.toml" hholds) env "TOKIO_WORKER_THREADS=9" (by decide)
    refine htwo [] "" (by decide) fun s hs hblank => ?_
    rw [hs] at hown
    exact absurd hblank (Bool.eq_false_iff.mp (Option.some.inj hown))
  · have hpresent : Present d.read "broken.toml" := by decide +kernel
    have herror : atPath d.read "broken.toml" = .error (.unparsable "broken.toml" .grammar) := by decide +kernel
    exact (((hheeds d.read "broken.toml").1 hpresent broken "" (by decide)).1 _ herror).2
  · have habsent : ¬Present d.read "absent.toml" := by decide +kernel
    rw [(hheeds d.read "absent.toml").2 habsent absent "" (by decide)]
    decide +kernel

end Settings
end ChunkVault.Config
