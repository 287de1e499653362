/-
# ChunkVault.Proofs.Config.Validity -- settings that make sense, and what putting settings in order makes of them

Putting settings in order is told in one equation (`Settings.normalize_eq`): the settings are completed, field by
field (`Settings.completed`), and the completed ones are judged (`Settings.verdict`). The environment comes into the
first of the two alone, with its connection string, and only where the settings have none of their own.

What passes makes sense in every way that is checked (`Settings.Valid`, which knows nothing of the checks and of
their order), and settings that make sense are complete (`Settings.Valid.completed_eq`). So a second time nothing is
left to do, in whichever environment.
-/
import Mathlib.Control.Monad.Basic
import ChunkVault.Config.Environment

namespace ChunkVault.Config

/-! ## Settings that make sense -/

/-- The server can listen somewhere, and has threads to work on. -/
structure ServerSettings.Valid (s : ServerSettings) : Prop where
  host : Text.isBlankText s.host = false
  port : 1 ≤ s.port.toNat ∧ s.port.toNat ≤ 65535
  workers : ∃ n, s.workerThreads = some n ∧ 1 ≤ n.toNat

/-- There is a database of a kind that can be used, and a pool of connections that can be held. Nothing is said of
the idle time and the lifetime of a connection. -/
structure DatabaseSettings.Valid (d : DatabaseSettings) : Prop where
  url : Text.isBlankText d.url = false
  /-- One of the schemes stands first, in letters of either case. -/
  scheme : ∃ scheme ∈ ["postgresql://", "postgres://"], ∃ front rest,
    d.url.toList = front ++ rest ∧ front.map Char.toLower = scheme.toList
  pool : 1 ≤ d.minConnections.toNat ∧ d.minConnections.toNat ≤ d.maxConnections.toNat
  connectTimeout : 1 ≤ d.connectTimeout.toNat
  acquireTimeout : 1 ≤ d.acquireTimeout.toNat

/-- Both parts make sense. -/
structure Settings.Valid (s : Settings) : Prop where
  server : s.server.Valid
  database : s.database.Valid

/-! ## The checks -/

/-- A check among others finds no fault if its condition does not hold and the checks after it find none. -/
theorem check_eq_none_iff {c : Prop} [Decidable c] {e : SettingsError} {rest : Option SettingsError} :
    (if c then some e else rest) = none ↔ ¬c ∧ rest = none := by
  by_cases hc : c
  · simp only [hc, if_true, reduceCtorEq, not_true_eq_false, false_and]
  · simp only [hc, if_false, not_false_eq_true, true_and]

theorem one_le_toNat_iff {n : UInt64} : 1 ≤ n.toNat ↔ n ≠ 0 :=
  UInt64.lt_iff_toNat_lt.symm.trans UInt64.pos_iff_ne_zero

namespace DatabaseSettings

/-- The scheme that is found is a front of the connection string. -/
theorem hasKnownScheme_iff {url : String} :
    hasKnownScheme url = true ↔ ∃ scheme ∈ ["postgresql://", "postgres://"], ∃ front rest,
      url.toList = front ++ rest ∧ front.map Char.toLower = scheme.toList := by
  have hfront (scheme : String) : scheme.toList.isPrefixOf (url.toList.map Char.toLower) = true ↔
      ∃ front rest, url.toList = front ++ rest ∧ front.map Char.toLower = scheme.toList := by
    rw [List.isPrefixOf_iff_prefix]
    constructor
    · rintro ⟨lowered, happend⟩
      obtain ⟨front, rest, hurl, hfront, -⟩ := List.map_eq_append_iff.mp happend.symm
      exact ⟨front, rest, hurl, hfront⟩
    · rintro ⟨front, rest, hurl, hfront⟩
      exact ⟨rest.map Char.toLower, by rw [hurl, List.map_append, hfront]⟩
  simp only [hasKnownScheme, schemes, List.any_cons, List.any_nil, Bool.or_eq_true, hfront, List.mem_cons,
    List.not_mem_nil, or_false, exists_eq_or_imp, exists_eq_left, Bool.false_eq_true]

/-- **The checks find no fault with settings that make sense, and with no others.** -/
theorem fault?_eq_none_iff {d : DatabaseSettings} : d.fault? = none ↔ d.Valid := by
  simp only [fault?, check_eq_none_iff, and_true]
  constructor
  · rintro ⟨hurl, hscheme, hmin, hmax, htimes⟩
    obtain ⟨hconnect, hacquire⟩ := not_or.mp htimes
    exact {
      url := Bool.eq_false_iff.mpr hurl
      scheme := hasKnownScheme_iff.mp (by simpa using hscheme)
      pool := ⟨UInt32.lt_iff_toNat_lt.mp (UInt32.pos_iff_ne_zero.mpr hmin),
        UInt32.le_iff_toNat_le.mp (UInt32.not_lt.mp hmax)⟩
      connectTimeout := one_le_toNat_iff.mpr hconnect
      acquireTimeout := one_le_toNat_iff.mpr hacquire }
  · intro h
    have hscheme := hasKnownScheme_iff.mpr h.scheme
    refine ⟨Bool.eq_false_iff.mp h.url, by simpa using hscheme, ?_, ?_, ?_⟩
    · exact UInt32.pos_iff_ne_zero.mp (UInt32.lt_iff_toNat_lt.mpr h.pool.1)
    · exact UInt32.not_lt.mpr (UInt32.le_iff_toNat_le.mpr h.pool.2)
    · exact not_or.mpr ⟨one_le_toNat_iff.mp h.connectTimeout, one_le_toNat_iff.mp h.acquireTimeout⟩

end DatabaseSettings

namespace Settings

/-- What is wrong with completed settings, if anything is. -/
def fault? (s : Settings) : Option SettingsError := if s.server.port = 0 then some .noPort else s.database.fault?

/-- What is said of completed settings. -/
def verdict (s : Settings) : Except SettingsError Unit :=
  match s.fault? with
  | some e => .error e
  | none => .ok ()

theorem verdict_eq_ok_iff {s : Settings} : s.verdict = .ok () ↔ s.fault? = none := by
  unfold verdict
  cases s.fault? with
  | none => exact ⟨fun _ => rfl, fun _ => rfl⟩
  | some e => exact ⟨nofun, nofun⟩

end Settings

/-! ## Completed settings -/

theorem DatabaseSettings.withUrl_eq (d : DatabaseSettings) (fallback : Option String) :
    d.withUrl fallback = { d with url := if Text.isBlankText d.url then fallback.getD d.url else d.url } := by
  unfold withUrl
  split <;> rfl

namespace ServerSettings

theorem withHost_eq (s : ServerSettings) :
    s.withHost = { s with host := if Text.isBlankText s.host then "127.0.0.1" else s.host } := by
  unfold withHost
  split <;> rfl

theorem withWorkers_eq (s : ServerSettings) :
    s.withWorkers =
      { s with workerThreads :=
          if s.workerThreads = none ∨ s.workerThreads = some 0 then some 4 else s.workerThreads } := by
  unfold withWorkers
  split
  · next hnone =>
    rw [if_pos (.inl hnone)]
    rfl
  · next hzero =>
    rw [if_pos (.inr hzero)]
    rfl
  · next n hne hsome =>
    have hkept : ¬(s.workerThreads = none ∨ s.workerThreads = some 0) := by
      rw [hsome]
      rintro (hnone | hzero)
      · cases hnone
      · exact hne (Option.some.inj hzero)
    rw [if_neg hkept]

end ServerSettings

namespace Settings

variable {s s' : Settings} {fallback fallback' : Option String}

/-- The settings with what is missing put in: a host, and where there is a port also a number of workers and the
connection string of the environment, if that has one. -/
def completed (fallback : Option String) (s : Settings) : Settings where
  server :=
    { host := if Text.isBlankText s.server.host then "127.0.0.1" else s.server.host
      port := s.server.port
      workerThreads :=
        if s.server.port ≠ 0 ∧ (s.server.workerThreads = none ∨ s.server.workerThreads = some 0) then some 4
        else s.server.workerThreads }
  database :=
    { s.database with
      url := if s.server.port ≠ 0 ∧ Text.isBlankText s.database.url then fallback.getD s.database.url
        else s.database.url }

/-- **Putting settings in order** completes them, and judges what comes of it. -/
theorem normalize_eq (fallback : Option String) (s : Settings) :
    s.normalize fallback = ((s.completed fallback).verdict, s.completed fallback) := by
  unfold normalize ServerSettings.normalize
  rw [ServerSettings.withHost_eq]
  by_cases hport : s.server.port = 0
  · simp only [hport, if_true, completed, verdict, fault?, ne_eq, not_true_eq_false, false_and, if_false]
  · simp only [hport, if_false, ServerSettings.withWorkers_eq, DatabaseSettings.withUrl_eq, completed, verdict, fault?,
      ne_eq, not_false_eq_true, true_and]
    rfl

/-- The server's part of completed settings makes sense if there is a port. -/
theorem completed_server_valid (hport : s.server.port ≠ 0) : (s.completed fallback).server.Valid := by
  refine ⟨?_, ?_, ?_⟩
  · show Text.isBlankText (if Text.isBlankText s.server.host then "127.0.0.1" else s.server.host) = false
    split
    · decide
    · next hhost => exact Bool.eq_false_iff.mpr hhost
  · have hlt := s.server.port.toNat_lt
    exact ⟨UInt16.lt_iff_toNat_lt.mp (UInt16.pos_iff_ne_zero.mpr hport), Nat.le_of_lt_succ hlt⟩
  · show ∃ n, (if s.server.port ≠ 0 ∧ (s.server.workerThreads = none ∨ s.server.workerThreads = some 0) then some 4
      else s.server.workerThreads) = some n ∧ 1 ≤ n.toNat
    split
    · exact ⟨4, rfl, by decide⟩
    · next hgiven =>
      obtain ⟨hsome, hne⟩ := not_or.mp fun h => hgiven ⟨hport, h⟩
      obtain ⟨n, hn⟩ := Option.ne_none_iff_exists'.mp hsome
      exact ⟨n, hn, one_le_toNat_iff.mpr fun hzero => hne (hzero ▸ hn)⟩

/-- **No fault is found with completed settings if they make sense**, and only then. -/
theorem completed_fault?_eq_none_iff : (s.completed fallback).fault? = none ↔ (s.completed fallback).Valid := by
  rw [fault?, check_eq_none_iff, DatabaseSettings.fault?_eq_none_iff]
  constructor
  · rintro ⟨hport, hdatabase⟩
    exact ⟨completed_server_valid hport, hdatabase⟩
  · intro h
    exact ⟨UInt16.pos_iff_ne_zero.mp (UInt16.lt_iff_toNat_lt.mpr h.server.port.1), h.database⟩

/-- **What passes** is the completed settings, if they make sense. -/
theorem normalize_eq_ok_iff : s.normalize fallback = (.ok (), s') ↔ s' = s.completed fallback ∧ s'.Valid := by
  rw [normalize_eq, Prod.mk.injEq, verdict_eq_ok_iff, completed_fault?_eq_none_iff]
  constructor
  · rintro ⟨hvalid, rfl⟩
    exact ⟨rfl, hvalid⟩
  · rintro ⟨rfl, hvalid⟩
    exact ⟨hvalid, rfl⟩

/-- Nothing is missing from settings that make sense. -/
theorem Valid.completed_eq (h : s.Valid) (fallback : Option String) : s.completed fallback = s := by
  obtain ⟨n, hn, hpos⟩ := h.server.workers
  have hworkers : ¬(s.server.workerThreads = none ∨ s.server.workerThreads = some 0) := by
    rw [hn]
    rintro (hnone | hzero)
    · cases hnone
    · exact one_le_toNat_iff.mp hpos (Option.some.inj hzero)
  simp only [completed, h.server.host, h.database.url, hworkers, Bool.false_eq_true, and_false, if_false]

/-- The environment is looked at for a connection string where there is none, and for nothing else. -/
theorem completed_congr (h : Text.isBlankText s.database.url → fallback = fallback') :
    s.completed fallback = s.completed fallback' := by
  by_cases hurl : Text.isBlankText s.database.url
  · rw [h hurl]
  · simp only [completed, Bool.eq_false_iff.mpr hurl, Bool.false_eq_true, and_false, if_false]

/-- **Putting settings in order is done once for all, and changes no more than is missing.** Settings that pass are
not changed by a second time, which they pass too, in whichever environment. Whether or not settings pass, what is
changed is a blank host, and if there is a port also a number of workers that is zero or absent, and a blank connection
string. Of the environment only its connection string counts, and that only for settings whose own is blank. -/
theorem normalize_settles (s : Settings) (env : Environment) :
    (∀ s', s.normalize env.databaseUrl? = (.ok (), s') →
      ∀ env' : Environment, s'.normalize env'.databaseUrl? = (.ok (), s')) ∧
    (s.normalize env.databaseUrl?).2 = s.completed env.databaseUrl? ∧
    ∀ env' : Environment, (Text.isBlankText s.database.url → env.databaseUrl? = env'.databaseUrl?) →
      s.normalize env.databaseUrl? = s.normalize env'.databaseUrl? := by
  refine ⟨fun s' h env' => ?_, ?_, fun env' h => ?_⟩
  · obtain ⟨-, hvalid⟩ := normalize_eq_ok_iff.mp h
    exact normalize_eq_ok_iff.mpr ⟨(hvalid.completed_eq _).symm, hvalid⟩
  · rw [normalize_eq]
  · rw [normalize_eq, normalize_eq, completed_congr h]

/-- Settings without host, workers and connection string, in an environment that has the last of these: they pass
completed, and so they do once more in an environment that has none, and in one that has another. -/
theorem normalize_settles_blank :
    let s : Settings := ⟨⟨" ", 80, none⟩, .default⟩
    let s' : Settings :=
      ⟨⟨"127.0.0.1", 80, some 4⟩, { DatabaseSettings.default with url := "postgres://localhost/files" }⟩
    let env : Environment := [("DATABASE_URL", "postgres://localhost/files")]
    let other : Environment := [("DATABASE_URL", "mysql://localhost/files")]
    s.normalize env.databaseUrl? = (.ok (), s') ∧ s'.normalize (Environment.databaseUrl? []) = (.ok (), s') ∧
      s'.normalize env.databaseUrl? = s'.normalize other.databaseUrl? := by
  intro s s' env other
  have hpass : s.normalize env.databaseUrl? = (.ok (), s') := by decide
  have hown : Text.isBlankText s'.database.url = false := by decide
  obtain ⟨hagain, -, -⟩ := normalize_settles s env
  obtain ⟨-, -, halike⟩ := normalize_settles s' env
  refine ⟨hpass, hagain s' hpass [], halike other fun hblank => ?_⟩
  rw [hown] at hblank
  cases hblank

end Settings
end ChunkVault.Config
