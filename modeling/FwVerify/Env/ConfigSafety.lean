import FwVerify.Lib.Runs
import FwVerify.Model.Env

/-!
# What happens to the idps-fw configuration

Every way one `setup` or one `clean` can end, seen on the two files that matter, the
configuration and its backup; and what follows for single calls and for whole histories of
calls.

## Main definitions

* `SetupResult` — how one `setup` can end
* `Call`, `callStep` — histories of calls
* `Kept` — the original configuration is in the backup, or else in place

## Main results

* `setup_result` — the ways a `setup` ends
* `kept_of_run` — the original survives every history
* `setup_error_reverts_iff` — when a failed `setup` leaves no generated configuration
* `clean_keeps_generated` — a `setup` with no configuration before it is not undone
-/

set_option autoImplicit false

namespace FwVerify

open FileStore Polling Runs

/-! ## One step -/

section Steps

variable (files : Files)

/-- What the backup step leaves as the backup: the one there is, else the configuration. -/
def backedUp : Option String := (files fwBackup).or (files fwConfig)

/-- The backup step has nothing to copy, or its copy succeeds. -/
def BackupOk (copies : Bool) : Prop :=
  files fwBackup = none → (files fwConfig).isSome → copies = true

theorem fwConfig_ne_fwBackup : fwConfig ≠ fwBackup := by decide

theorem exec_backupFwConfig (copies : Bool) :
    (BackupOk files copies ∧ FileM.exec (backupFwConfig copies) files =
      (.ok (), Function.update files fwBackup (backedUp files))) ∨
    (¬ BackupOk files copies ∧ ∃ error, FileM.exec (backupFwConfig copies) files =
      (.error error, files)) := by
  cases hbak : files fwBackup with
  | some body =>
    -- a backup is kept already: nothing is copied
    refine .inl ⟨fun h => by simp [hbak] at h, ?_⟩
    have hsame : Function.update files fwBackup (backedUp files) = files := by
      rw [backedUp, hbak, Option.some_or, ← hbak, Function.update_eq_self]
    simp [backupFwConfig, hbak, hsame]
  | none =>
    cases hcfg : files fwConfig with
    | none =>
      -- there is nothing to back up
      refine .inl ⟨fun _ h => by simp [hcfg] at h, ?_⟩
      have hsame : Function.update files fwBackup (backedUp files) = files := by
        rw [backedUp, hbak, hcfg, Option.none_or, ← hbak, Function.update_eq_self]
      simp [backupFwConfig, hcfg, hsame]
    | some body =>
      have hkeep : backedUp files = some body := by simp [backedUp, hbak, hcfg]
      cases copies with
      | true =>
        refine .inl ⟨fun _ _ => rfl, ?_⟩
        simp [backupFwConfig, hbak, hcfg, exec_copy_some files true hcfg, hkeep]
      | false =>
        refine .inr ⟨fun h => by simpa using h hbak (by simp [hcfg]), ?_⟩
        simp [backupFwConfig, hbak, hcfg, exec_copy_some files false hcfg]

/-- A restore never fails: either it changes nothing, for want of a backup or of a copy, or
the configuration is the backup, which is gone unless its removal fails. -/
theorem exec_restoreFwConfig (copies removes : Bool) :
    ∃ restored files', FileM.exec (restoreFwConfig copies removes) files =
        (.ok restored, files') ∧
      (files' = files ∧ ((files fwBackup).isSome → copies = false) ∨
        (files fwBackup).isSome ∧ copies = true ∧ files' fwConfig = files fwBackup ∧
          (files' fwBackup = if removes then none else files fwBackup)) := by
  cases hbak : files fwBackup with
  | none => exact ⟨false, files, by simp [restoreFwConfig, hbak], .inl ⟨rfl, by simp⟩⟩
  | some body =>
    have hcopy : FileM.exec (copy copies fwBackup fwConfig) files =
        (.ok copies, if copies then Function.update files fwConfig (some body) else files) :=
      exec_copy_some files copies hbak
    cases copies with
    | false => exact ⟨false, files, by simp [restoreFwConfig, hbak, hcopy], .inl ⟨rfl, by simp⟩⟩
    | true =>
      refine ⟨true, _, by simp [restoreFwConfig, hbak, hcopy]; rfl, .inr ⟨rfl, rfl, ?_⟩⟩
      cases removes with
      | true => simp [Function.update_of_ne fwConfig_ne_fwBackup]
      | false => simp [Function.update_of_ne fwConfig_ne_fwBackup.symm, hbak]

/-- The configuration and its backup are the same in both. -/
def Untouched (files' : Files) : Prop :=
  files' fwConfig = files fwConfig ∧ files' fwBackup = files fwBackup

/-- The injection of a debug identity ends with a keystore in place. -/
def KeystoreSteps.ready (steps : KeystoreSteps) : Bool :=
  steps.present ||
    (steps.writeVin && steps.writeDsn && steps.restartServer && pollUntil id steps.polls)

theorem leaves_writeDebugId {path : String} (succeeds : Bool) {name : String} (value : String)
    (hne : path ≠ s!"/data/idd/{name}") : Leaves path (writeDebugId succeeds name value) :=
  .bind (.write hne _ _) fun _ => .orFail _ _

/-- The keystore is derived by idps-server; the tool itself only writes the identity. -/
theorem leaves_ensureKeystoreAndroid {path : String} (global : GlobalArgs)
    (steps : KeystoreSteps) (hvin : path ≠ "/data/idd/vin_debug")
    (hdsn : path ≠ "/data/idd/dsn_debug") :
    Leaves path (ensureKeystoreAndroid global steps) :=
  .ite _ (.pure _) <| .bind (leaves_writeDebugId _ _ hvin) fun _ =>
    .bind (leaves_writeDebugId _ _ hdsn) fun _ => .bind (.stopOnError _) fun _ =>
      .orFail _ _

theorem untouched_ensureKeystoreAndroid (global : GlobalArgs) (steps : KeystoreSteps) :
    Untouched files (FileM.exec (ensureKeystoreAndroid global steps) files).2 :=
  ⟨leaves_ensureKeystoreAndroid global steps (by decide) (by decide) files,
    leaves_ensureKeystoreAndroid global steps (by decide) (by decide) files⟩

theorem ensureKeystoreAndroid_isOk {global : GlobalArgs} (hmode : global.mode = .android)
    (steps : KeystoreSteps) :
    (FileM.exec (ensureKeystoreAndroid global steps) files).1.isOk = steps.ready := by
  obtain ⟨present, writeVin, writeDsn, restartServer, polls⟩ := steps
  cases present <;> cases writeVin <;> cases writeDsn <;> cases restartServer <;>
    cases hpolls : pollUntil id polls <;>
    simp [ensureKeystoreAndroid, writeDebugId, restartService, KeystoreSteps.ready, hmode,
      hpolls, Except.isOk, Except.toBool]

end Steps

/-! ## One call -/

/-- The configuration a `setup` generates. -/
def generatedConfig (global : GlobalArgs) : String :=
  fwConfigText global (Topology.ofGlobal global)

section Setup

variable (global : GlobalArgs) (steps : SetupSteps) (files : Files)

/-- The call gets as far as writing the generated configuration. -/
structure Staged : Prop where
  topology : steps.createTopology = .ok ()
  directory : steps.createDir = true
  backup : BackupOk files steps.backupCopy
  config : steps.writeConfig = true

/-- The daemon runs with the generated configuration but stays unhealthy. -/
structure Unhealthy : Prop where
  mode : global.mode = .android
  conf : steps.writeConf = true
  keystore : steps.keystore.ready = true
  restart : steps.restartFw = true
  unhealthy : waitHealthy steps.health = false

/-- Every step after the configuration is written succeeds. -/
structure Applied : Prop where
  conf : steps.writeConf = true
  android : global.mode = .android →
    steps.keystore.ready = true ∧ steps.restartFw = true ∧ waitHealthy steps.health = true

/-- There is something to go back to, and putting it back succeeds. -/
structure RolledBack : Prop extends Unhealthy global steps where
  kept : (backedUp files).isSome
  copied : steps.restoreCopy = true

/-- How one `setup` can end: stopped with the configuration untouched, applied, given up
with the generated configuration in place, or rolled back. -/
inductive SetupResult : Except String Unit × Files → Prop
  | stopped {error : String} {files' : Files} (staged : ¬ Staged steps files)
      (config : files' fwConfig = files fwConfig)
      (backup : files' fwBackup = files fwBackup ∨ files' fwBackup = backedUp files) :
      SetupResult (.error error, files')
  | applied {files' : Files} (staged : Staged steps files) (applied : Applied global steps)
      (config : files' fwConfig = some (generatedConfig global))
      (backup : files' fwBackup = backedUp files) :
      SetupResult (.ok (), files')
  | abandoned {error : String} {files' : Files} (staged : Staged steps files)
      (applied : ¬ Applied global steps) (rolledBack : ¬ RolledBack global steps files)
      (config : files' fwConfig = some (generatedConfig global))
      (backup : files' fwBackup = backedUp files) :
      SetupResult (.error error, files')
  | rolledBack {error : String} {files' : Files} (staged : Staged steps files)
      (rolledBack : RolledBack global steps files) (config : files' fwConfig = backedUp files)
      (backup : files' fwBackup = backedUp files ∨ files' fwBackup = none) :
      SetupResult (.error error, files')

/-- The part of `setup` after the generated files are written. -/
def activate : FileM Unit :=
  match global.mode with
  | .android => do
    ensureKeystoreAndroid global steps.keystore
    stopOnError (restartService global.mode steps.restartFw "idps-fw")
    if waitHealthy steps.health then
      return ()
    else
      let _ ← restoreFwConfig steps.restoreCopy steps.restoreRemove
      ignoring (stopOnError (restartService global.mode steps.restartRestored "idps-fw"))
      throw "idps-fw unhealthy after applying the fast config; restored the previous one"
  | .host => return ()

theorem setup_eq : setup global steps = (do
    stopOnError steps.createTopology
    orFail steps.createDir s!"failed to create {iddEtc} (is the partition writable?)"
    backupFwConfig steps.backupCopy
    writeFwConfig steps.writeConfig global (Topology.ofGlobal global)
    writeFwvConf steps.writeConf global (Topology.ofGlobal global)
    activate global steps) := rfl

variable {files}

/-- How the activation ends. -/
theorem exec_activate (hconf : steps.writeConf = true) :
    (∃ files', FileM.exec (activate global steps) files = (.ok (), files') ∧
      Untouched files files' ∧ Applied global steps) ∨
    ∃ error files', FileM.exec (activate global steps) files = (.error error, files') ∧
      ¬ Applied global steps ∧
      (Untouched files files' ∧
          (Unhealthy global steps → (files fwBackup).isSome → steps.restoreCopy = false) ∨
        Unhealthy global steps ∧ (files fwBackup).isSome ∧ steps.restoreCopy = true ∧
          files' fwConfig = files fwBackup ∧
          (files' fwBackup = files fwBackup ∨ files' fwBackup = none)) := by
  cases hmode : global.mode with
  | host =>
    refine .inl ⟨files, by simp [activate, hmode], ⟨rfl, rfl⟩, hconf, ?_⟩
    exact fun h => by simp [hmode] at h
  | android =>
    have hready := ensureKeystoreAndroid_isOk files hmode steps.keystore
    obtain ⟨hcfg, hbak⟩ := untouched_ensureKeystoreAndroid files global steps.keystore
    rcases hrun : FileM.exec (ensureKeystoreAndroid global steps.keystore) files with
      ⟨error | ⟨⟩, files'⟩ <;> rw [hrun] at hready hcfg hbak
    · -- no keystore: nothing was restarted
      refine .inr ⟨error, files', by simp [activate, hmode, hrun], ?_, .inl ⟨⟨hcfg, hbak⟩, ?_⟩⟩
      · intro h
        simp [(h.android hmode).1, Except.isOk, Except.toBool] at hready
      · intro h
        simp [h.keystore, Except.isOk, Except.toBool] at hready
    · replace hready : steps.keystore.ready = true := hready.symm
      replace hcfg : files' fwConfig = files fwConfig := hcfg
      replace hbak : files' fwBackup = files fwBackup := hbak
      cases hrestart : steps.restartFw with
      | false =>
        -- the daemon does not come back with the generated configuration
        refine .inr ⟨_, files', by simp [activate, hmode, hrun, hrestart, restartService]; rfl,
          ?_, .inl ⟨⟨hcfg, hbak⟩, ?_⟩⟩
        · exact fun h => by simpa [hrestart] using (h.android hmode).2.1
        · exact fun h => by simpa [hrestart] using h.restart
      | true =>
        cases hhealth : waitHealthy steps.health with
        | true =>
          refine .inl ⟨files', ?_, ⟨hcfg, hbak⟩, hconf, fun _ => ⟨hready, hrestart, hhealth⟩⟩
          simp [activate, hmode, hrun, hrestart, restartService, hhealth]
        | false =>
          -- unhealthy: what happens is up to the restore
          have hnot : ¬ Applied global steps := fun h => by
            simpa [hhealth] using (h.android hmode).2.2
          obtain ⟨restored, files'', hrestore, hends⟩ :=
            exec_restoreFwConfig files' steps.restoreCopy steps.restoreRemove
          refine .inr
            ⟨"idps-fw unhealthy after applying the fast config; restored the previous one",
              files'', ?_, hnot, ?_⟩
          · simp [activate, hmode, hrun, hrestart, restartService, hhealth, hrestore]
          · rw [hbak] at hends
            rcases hends with ⟨rfl, hcopy⟩ | ⟨hsome, hcopy, hcfg', hbak'⟩
            · exact .inl ⟨⟨hcfg, hbak⟩, fun _ => hcopy⟩
            · refine .inr ⟨⟨hmode, hconf, hready, hrestart, hhealth⟩, hsome, hcopy, hcfg', ?_⟩
              rw [hbak']
              cases steps.restoreRemove with
              | true => exact .inr rfl
              | false => exact .inl rfl

variable (files)

/-- The files once the generated configuration is written. -/
def stagedFiles : Files :=
  Function.update (Function.update files fwBackup (backedUp files)) fwConfig
    (some (generatedConfig global))

theorem stagedFiles_config : stagedFiles global files fwConfig = some (generatedConfig global) :=
  Function.update_self ..

theorem stagedFiles_backup : stagedFiles global files fwBackup = backedUp files := by
  rw [stagedFiles, Function.update_of_ne fwConfig_ne_fwBackup.symm, Function.update_self]

theorem exec_setup_of_staged (staged : Staged steps files) :
    FileM.exec (setup global steps) files =
      FileM.exec (do
        writeFwvConf steps.writeConf global (Topology.ofGlobal global)
        activate global steps) (stagedFiles global files) := by
  rcases exec_backupFwConfig files steps.backupCopy with ⟨-, hexec⟩ | ⟨hbackup, -⟩
  · simp [setup_eq, staged.topology, staged.directory, hexec, writeFwConfig, staged.config,
      stagedFiles, generatedConfig]
  · exact absurd staged.backup hbackup

/-- With the configuration written, the call ends applied, abandoned or rolled back. -/
theorem setup_result_of_staged (staged : Staged steps files) :
    SetupResult global steps files (FileM.exec (setup global steps) files) := by
  have hconfig := stagedFiles_config global files
  have hbackup := stagedFiles_backup global files
  rw [exec_setup_of_staged global steps files staged]
  generalize stagedFiles global files = files₁ at hconfig hbackup
  cases hconf : steps.writeConf with
  | false =>
    -- the call gives up between the two files
    have hrun : FileM.exec (do
        writeFwvConf false global (Topology.ofGlobal global)
        activate global steps) files₁ = (.error s!"failed to write {fwvConf}", files₁) := by
      simp [writeFwvConf]
    rw [hrun]
    exact .abandoned staged (fun h => by simpa [hconf] using h.conf)
      (fun h => by simpa [hconf] using h.conf) hconfig hbackup
  | true =>
    let files₂ := Function.update files₁ fwvConf
      (some (fwvConfText global (Topology.ofGlobal global)))
    have hrun : FileM.exec (do
        writeFwvConf true global (Topology.ofGlobal global)
        activate global steps) files₁ = FileM.exec (activate global steps) files₂ := by
      simp [writeFwvConf, files₂]
    have hconfig₂ : files₂ fwConfig = some (generatedConfig global) :=
      (Function.update_of_ne (by decide) ..).trans hconfig
    have hbackup₂ : files₂ fwBackup = backedUp files :=
      (Function.update_of_ne (by decide) ..).trans hbackup
    have hends := @exec_activate global steps files₂ hconf
    rw [hbackup₂] at hends
    rw [hrun]
    rcases hends with ⟨files', hexec, hsame, happlied⟩ |
      ⟨error, files', hexec, hnot, ⟨hsame, hkept⟩ | ⟨hun, hsome, hcopy, hcfg, hbak⟩⟩
    · rw [hexec]
      exact .applied staged happlied (hsame.1.trans hconfig₂) (hsame.2.trans hbackup₂)
    · rw [hexec]
      refine .abandoned staged hnot (fun h => ?_) (hsame.1.trans hconfig₂)
        (hsame.2.trans hbackup₂)
      simpa [hkept h.toUnhealthy h.kept] using h.copied
    · rw [hexec]
      exact .rolledBack staged ⟨hun, hsome, hcopy⟩ hcfg hbak

/-- Short of writing the configuration, the call stops with an error. -/
theorem exec_setup_of_not_staged (staged : ¬ Staged steps files) :
    ∃ error files', FileM.exec (setup global steps) files = (.error error, files') ∧
      files' fwConfig = files fwConfig ∧
      (files' fwBackup = files fwBackup ∨ files' fwBackup = backedUp files) := by
  cases htopology : steps.createTopology with
  | error error => exact ⟨error, files, by simp [setup_eq, htopology], rfl, .inl rfl⟩
  | ok =>
    cases hdirectory : steps.createDir with
    | false => exact ⟨_, files, by simp [setup_eq, htopology, hdirectory]; rfl, rfl, .inl rfl⟩
    | true =>
      rcases exec_backupFwConfig files steps.backupCopy with
        ⟨hbackup, hexec⟩ | ⟨hbackup, error, hexec⟩
      · cases hconfig : steps.writeConfig with
        | false =>
          refine ⟨s!"failed to write {fwConfig} (is the partition writable?)",
            Function.update files fwBackup (backedUp files), ?_,
            Function.update_of_ne fwConfig_ne_fwBackup .., .inr (Function.update_self ..)⟩
          simp [setup_eq, htopology, hdirectory, hexec, writeFwConfig, hconfig]
        | true => exact absurd ⟨htopology, hdirectory, hbackup, hconfig⟩ staged
      · exact ⟨error, files, by simp [setup_eq, htopology, hdirectory, hexec], rfl, .inl rfl⟩

/-- **Every way one `setup` can end.** -/
theorem setup_result :
    SetupResult global steps files (FileM.exec (setup global steps) files) := by
  by_cases staged : Staged steps files
  · exact setup_result_of_staged global steps files staged
  · obtain ⟨error, files', hexec, hconfig, hbackup⟩ :=
      exec_setup_of_not_staged global steps files staged
    rw [hexec]
    exact .stopped staged hconfig hbackup

end Setup

theorem setup_ok {global : GlobalArgs} {steps : SetupSteps} {files files' : Files}
    (h : FileM.exec (setup global steps) files = (.ok (), files')) :
    files' fwConfig = some (generatedConfig global) ∧ files' fwBackup = backedUp files := by
  have hresult := setup_result global steps files
  rw [h] at hresult
  cases hresult with
  | applied _ _ hconfig hbackup => exact ⟨hconfig, hbackup⟩

/-- How one `clean` ends: it never fails. -/
theorem exec_clean (global : GlobalArgs) (steps : CleanSteps) (files : Files) :
    ∃ files', FileM.exec (clean global steps) files = (.ok (), files') ∧
      (Untouched files files' ∧ ((files fwBackup).isSome → steps.restoreCopy = false) ∨
        (files fwBackup).isSome ∧ steps.restoreCopy = true ∧
          files' fwConfig = files fwBackup ∧
          files' fwBackup = if steps.restoreRemove then none else files fwBackup) := by
  obtain ⟨restored, files', hrestore, hends⟩ :=
    exec_restoreFwConfig files steps.restoreCopy steps.restoreRemove
  let last := if steps.removeConf then Function.update files' fwvConf none else files'
  have hlast (path : String) (hne : path ≠ fwvConf) : last path = files' path := by
    by_cases h : steps.removeConf
    · simp [last, h, Function.update_of_ne hne]
    · simp [last, h]
  refine ⟨last, ?_, ?_⟩
  · by_cases hrestart : restored = true ∧ global.mode = .android
    · simp [clean, hrestore, hrestart, last]
    · simp [clean, hrestore, hrestart, last]
  · rw [Untouched, hlast fwConfig (by decide), hlast fwBackup (by decide)]
    rcases hends with ⟨rfl, hcopy⟩ | hrestored
    · exact .inl ⟨⟨rfl, rfl⟩, hcopy⟩
    · exact .inr hrestored

/-! ## Histories of calls -/

/-- One call of the tool's environment commands. -/
inductive Call
  | setup (global : GlobalArgs) (steps : SetupSteps)
  | clean (global : GlobalArgs) (steps : CleanSteps)

/-- How a call ends, and the files it leaves. -/
def Call.exec (files : Files) : Call → Except String Unit × Files
  | .setup global steps => FileM.exec (FwVerify.setup global steps) files
  | .clean global steps => FileM.exec (FwVerify.clean global steps) files

/-- The tool can always be called. -/
def callStep (files : Files) (call : Call) : Option Files := some (call.exec files).2

/-- The original is in the backup, or else in place. -/
structure Kept (original : String) (files : Files) : Prop where
  backup : ∀ body, files fwBackup = some body → body = original
  inPlace : files fwBackup = none → files fwConfig = some original

section Kept

variable {original : String} {files files' : Files}

theorem Kept.of_backup (h : files' fwBackup = some original) : Kept original files' :=
  ⟨fun body hbody => by simpa [h] using hbody.symm, fun hnone => by simp [h] at hnone⟩

theorem Kept.of_config (hconfig : files' fwConfig = some original)
    (hbackup : files' fwBackup = none ∨ files' fwBackup = some original) :
    Kept original files' := by
  rcases hbackup with hnone | hsome
  · exact ⟨fun body hbody => by simp [hnone] at hbody, fun _ => hconfig⟩
  · exact .of_backup hsome

theorem Kept.of_untouched (h : Kept original files) (hsame : Untouched files files') :
    Kept original files' :=
  ⟨fun body hbody => h.backup body (hsame.2 ▸ hbody),
    fun hnone => hsame.1.trans (h.inPlace (hsame.2 ▸ hnone))⟩

/-- Once the backup step is through, the original is in the backup. -/
theorem Kept.backedUp_eq (h : Kept original files) : backedUp files = some original := by
  cases hbak : files fwBackup with
  | none => simp [backedUp, hbak, h.inPlace hbak]
  | some body => simp [backedUp, hbak, h.backup body hbak]

theorem Kept.setup (h : Kept original files) (global : GlobalArgs) (steps : SetupSteps) :
    Kept original (FileM.exec (FwVerify.setup global steps) files).2 := by
  have hback := h.backedUp_eq
  have hresult := setup_result global steps files
  generalize FileM.exec (FwVerify.setup global steps) files = result at hresult ⊢
  cases hresult with
  | stopped _ hconfig hbackup =>
    rcases hbackup with hsame | hkept
    · exact h.of_untouched ⟨hconfig, hsame⟩
    · exact .of_backup (hkept.trans hback)
  | applied _ _ _ hbackup => exact .of_backup (hbackup.trans hback)
  | abandoned _ _ _ _ hbackup => exact .of_backup (hbackup.trans hback)
  | rolledBack _ _ hconfig hbackup =>
    rw [hback] at hconfig hbackup
    exact .of_config hconfig hbackup.symm

theorem Kept.clean (h : Kept original files) (global : GlobalArgs) (steps : CleanSteps) :
    Kept original (FileM.exec (FwVerify.clean global steps) files).2 := by
  obtain ⟨files', hexec, ⟨hsame, -⟩ | ⟨hsome, -, hconfig, hbackup⟩⟩ :=
    exec_clean global steps files
  · rw [hexec]
    exact h.of_untouched hsame
  · obtain ⟨body, hbody⟩ := Option.isSome_iff_exists.mp hsome
    obtain rfl := h.backup body hbody
    have hgone : files' fwBackup = none ∨ files' fwBackup = some body := by
      rw [hbackup, hbody]
      cases steps.restoreRemove with
      | true => exact .inl rfl
      | false => exact .inr rfl
    rw [hexec]
    exact .of_config (hconfig.trans hbody) hgone

theorem Kept.callStep {call : Call} (h : Kept original files)
    (hstep : callStep files call = some files') : Kept original files' := by
  cases hstep
  cases call with
  | setup global steps => exact h.setup global steps
  | clean global steps => exact h.clean global steps

/-- A `clean` whose restore copy works leaves the original in place. -/
theorem Kept.config_clean (h : Kept original files) (global : GlobalArgs) (steps : CleanSteps)
    (hcopy : steps.restoreCopy = true) :
    (FileM.exec (FwVerify.clean global steps) files).2 fwConfig = some original := by
  obtain ⟨files', hexec, ⟨hsame, hfail⟩ | ⟨hsome, -, hconfig, -⟩⟩ :=
    exec_clean global steps files
  · rw [hexec]
    cases hbak : files fwBackup with
    | none => exact hsame.1.trans (h.inPlace hbak)
    | some body => simp [hcopy, hbak] at hfail
  · rw [hexec]
    obtain ⟨body, hbody⟩ := Option.isSome_iff_exists.mp hsome
    obtain rfl := h.backup body hbody
    exact hconfig.trans hbody

end Kept

/-- A `setup` in which every step succeeds. -/
def smoothSetup : SetupSteps where
  createTopology := .ok ()
  createDir := true
  backupCopy := true
  writeConfig := true
  writeConf := true
  keystore := ⟨true, true, true, true, ⟨true, []⟩⟩
  restartFw := true
  health := ⟨some (.object [("connected", .bool true)]), []⟩
  restoreCopy := true
  restoreRemove := true
  restartRestored := true

/-- A `clean` in which every step succeeds. -/
def smoothClean : CleanSteps := ⟨true, true, true, true⟩

/-- Files that hold a configuration and nothing else. -/
def configOnly (body : String) : Files := Function.update (fun _ => none) fwConfig (some body)

/-- **The original survives every history of calls.** It is in the backup whenever there is
one and in place otherwise, and a `clean` whose restore copy works puts it back. -/
theorem kept_of_run {original : String} {calls : List Call} {files files' : Files}
    (hconfig : files fwConfig = some original) (hbackup : files fwBackup = none)
    (hrun : Run callStep files calls files') :
    Kept original files' ∧ ∀ (global : GlobalArgs) (steps : CleanSteps),
      steps.restoreCopy = true →
        (FileM.exec (clean global steps) files').2 fwConfig = some original := by
  have hstart : Kept original files := .of_config hconfig (.inl hbackup)
  have hend : Kept original files' :=
    hrun.invariant (fun _ _ _ hkept _ hstep => hkept.callStep hstep) hstart
  exact ⟨hend, fun global steps hcopy => hend.config_clean global steps hcopy⟩

/-- Two setups in a row, the second over a daemon that stays unhealthy, and a `clean` that
cannot remove the backup. -/
theorem kept_of_two_setups :
    let android := { GlobalArgs.default with mode := .android }
    let unhealthy := { smoothSetup with health := ⟨none, []⟩ }
    ∃ files', Run callStep (configOnly "original")
        [.setup android smoothSetup, .setup android unhealthy,
          .clean android { smoothClean with restoreRemove := false }] files' ∧
      Kept "original" files' ∧
      (FileM.exec (clean android smoothClean) files').2 fwConfig = some "original" := by
  refine ⟨_, .cons rfl trivial (.cons rfl trivial (.cons rfl trivial (.nil _))), ?_⟩
  have hconfig : configOnly "original" fwConfig = some "original" := Function.update_self ..
  have hbackup : configOnly "original" fwBackup = none :=
    Function.update_of_ne fwConfig_ne_fwBackup.symm ..
  obtain ⟨hkept, hclean⟩ := kept_of_run hconfig hbackup
    (.cons rfl trivial (.cons rfl trivial (.cons rfl trivial (.nil _))))
  exact ⟨hkept, hclean _ smoothClean rfl⟩

/-! ## Failed setups -/

/-- The configuration is what it was, or what the backup was. -/
def Reverted (files files' : Files) : Prop :=
  files' fwConfig = files fwConfig ∨
    ∃ body, files fwBackup = some body ∧ files' fwConfig = some body

/-- The call writes the generated configuration and then fails without rolling back. -/
structure LeftLive (global : GlobalArgs) (steps : SetupSteps) (files : Files) : Prop where
  staged : Staged steps files
  failed : ¬ Applied global steps
  kept : ¬ RolledBack global steps files

/-- Such a call ends in an error with the generated configuration in place. -/
theorem exec_setup_of_leftLive {global : GlobalArgs} {steps : SetupSteps} {files : Files}
    (h : LeftLive global steps files) :
    ∃ error files', FileM.exec (setup global steps) files = (.error error, files') ∧
      files' fwConfig = some (generatedConfig global) := by
  have hresult := setup_result global steps files
  generalize FileM.exec (setup global steps) files = result at hresult ⊢
  cases hresult with
  | stopped staged => exact absurd h.staged staged
  | applied _ applied => exact absurd applied h.failed
  | rolledBack _ rolledBack => exact absurd rolledBack h.kept
  | abandoned _ _ _ hconfig _ => exact ⟨_, _, rfl, hconfig⟩

/-- **A failed setup reverts** exactly when it failed before the write, or rolled back, or the
generated configuration is one of the two earlier ones. -/
theorem setup_error_reverts_iff (global : GlobalArgs) (steps : SetupSteps) (files : Files) :
    (∀ error files', FileM.exec (setup global steps) files = (.error error, files') →
      Reverted files files') ↔
    (LeftLive global steps files →
      files fwConfig = some (generatedConfig global) ∨
        files fwBackup = some (generatedConfig global)) := by
  constructor
  · intro hrev hlive
    obtain ⟨error, files', hexec, hconfig⟩ := exec_setup_of_leftLive hlive
    rcases hrev error files' hexec with hsame | ⟨body, hbody, hsame⟩
    · exact .inl (hsame.symm.trans hconfig)
    · exact .inr (hbody.trans (hsame.symm.trans hconfig))
  · intro hcond error files' hexec
    have hresult := setup_result global steps files
    rw [hexec] at hresult
    cases hresult with
    | stopped _ hconfig _ => exact .inl hconfig
    -- a generated configuration can only be an earlier one by being equal to it
    | abandoned staged applied rolledBack hconfig _ =>
      rcases hcond ⟨staged, applied, rolledBack⟩ with hsame | hsame
      · exact .inl (hconfig.trans hsame.symm)
      · exact .inr ⟨_, hsame, hconfig⟩
    | rolledBack _ _ hconfig _ =>
      cases hbak : files fwBackup with
      | none => exact .inl (by simpa [backedUp, hbak] using hconfig)
      | some body => exact .inr ⟨body, hbak, by simpa [backedUp, hbak] using hconfig⟩

/-- A keystore that never appears leaves the generated configuration where the user's was. -/
theorem keystore_timeout_leaves_generated :
    ¬ ∀ (global : GlobalArgs) (steps : SetupSteps) (files : Files) (error : String)
      (files' : Files), FileM.exec (setup global steps) files = (.error error, files') →
        Reverted files files' := by
  intro hclaim
  let android := { GlobalArgs.default with mode := .android }
  let steps := { smoothSetup with keystore := ⟨false, true, true, true, ⟨false, []⟩⟩ }
  have hmissing : steps.keystore.ready ≠ true := by decide
  have hlive : LeftLive android steps (configOnly "original") :=
    { staged := ⟨rfl, rfl, fun _ _ => rfl, rfl⟩
      failed := fun h => hmissing (h.android rfl).1
      kept := fun h => hmissing h.keystore }
  obtain ⟨error, files', hexec, hconfig⟩ := exec_setup_of_leftLive hlive
  have hne : some (generatedConfig android) ≠ some "original" := by decide
  rcases hclaim _ _ _ error files' hexec with hsame | ⟨body, hbody, -⟩
  · exact hne (hconfig.symm.trans hsame)
  · have hnone : configOnly "original" fwBackup = none :=
      Function.update_of_ne fwConfig_ne_fwBackup.symm ..
    rw [hnone] at hbody
    cases hbody

/-! ## Setups with no configuration before them -/

/-- The call is a `setup` that succeeds. -/
def SetupSucceeds (files : Files) (call : Call) : Prop :=
  ∃ global steps, call = .setup global steps ∧ (call.exec files).1 = .ok ()

/-- Neither the configuration nor a backup exists. -/
def Pristine (files : Files) : Prop := files fwConfig = none ∧ files fwBackup = none

/-- A `clean` in which no file operation fails. -/
structure CleanSteps.NoFailure (steps : CleanSteps) : Prop where
  copies : steps.restoreCopy = true
  removes : steps.restoreRemove = true
  removesConf : steps.removeConf = true

theorem exec_setup_succeeds {global : GlobalArgs} {steps : SetupSteps} {files : Files}
    (h : SetupSucceeds files (.setup global steps)) :
    FileM.exec (setup global steps) files =
      (.ok (), (FileM.exec (setup global steps) files).2) := by
  obtain ⟨_, _, -, hok⟩ := h
  exact Prod.ext hok rfl

/-- A generated configuration once kept as the backup stays there. -/
theorem backup_of_run {body : String} {calls : List Call} {files files' : Files}
    (hbackup : files fwBackup = some body)
    (hrun : RunUnder callStep SetupSucceeds files calls files') :
    files' fwBackup = some body := by
  refine hrun.invariant (I := fun files => files fwBackup = some body) ?_ hbackup
  intro files call files' hbackup hok hstep
  obtain ⟨global, steps, rfl, -⟩ := id hok
  cases hstep
  -- the backup step leaves a backup that is there alone
  have hafter := (setup_ok (exec_setup_succeeds hok)).2
  simpa [backedUp, hbackup, Call.exec] using hafter

/-- **A first configuration is never undone.** With no configuration and no backup before
them, any successful setups followed by a `clean` in which nothing fails leave the first
generated configuration; from the second setup on it is kept as if it were the original. -/
theorem clean_keeps_generated {global : GlobalArgs} {steps : SetupSteps} {calls : List Call}
    {files files' : Files} (hpristine : Pristine files)
    (hrun : RunUnder callStep SetupSucceeds files (.setup global steps :: calls) files')
    (cleanGlobal : GlobalArgs) {cleanSteps : CleanSteps} (hclean : cleanSteps.NoFailure) :
    let final := (FileM.exec (clean cleanGlobal cleanSteps) files').2
    ¬ Pristine final ∧ final fwConfig = some (generatedConfig global) ∧
      (calls ≠ [] → files' fwBackup = some (generatedConfig global)) := by
  cases hrun with
  | cons hstep hok hrest =>
    cases hstep
    obtain ⟨hconfig, hbackup⟩ := setup_ok (exec_setup_succeeds hok)
    rw [backedUp, hpristine.1, hpristine.2, Option.or_none] at hbackup
    change RunUnder callStep SetupSucceeds (FileM.exec (setup global steps) files).2 calls files'
      at hrest
    generalize (FileM.exec (setup global steps) files).2 = files₁ at hrest hconfig hbackup
    have hkept : Kept (generatedConfig global) files' :=
      hrest.invariant (fun _ _ _ hkept _ hstep => hkept.callStep hstep)
        (.of_config hconfig (.inl hbackup))
    have hfinal := hkept.config_clean cleanGlobal cleanSteps hclean.copies
    refine ⟨fun h => ?_, hfinal, fun hne => ?_⟩
    · rw [h.1] at hfinal
      cases hfinal
    · -- the second setup backs up what the first one generated
      cases hrest with
      | nil => exact absurd rfl hne
      | cons hstep hok hrest =>
        obtain ⟨global', steps', rfl, -⟩ := id hok
        cases hstep
        refine backup_of_run ?_ hrest
        have hsecond := (setup_ok (exec_setup_succeeds hok)).2
        rw [backedUp, hbackup, Option.none_or, hconfig] at hsecond
        exact hsecond

/-- One successful host setup and a `clean`. -/
theorem clean_keeps_one_setup :
    let files' := (Call.exec (fun _ => none) (.setup .default smoothSetup)).2
    let final := (FileM.exec (clean .default smoothClean) files').2
    ¬ Pristine final ∧ final fwConfig = some (generatedConfig .default) ∧
      (([] : List Call) ≠ [] → files' fwBackup = some (generatedConfig .default)) := by
  have hpristine : Pristine fun _ => none := ⟨rfl, rfl⟩
  exact clean_keeps_generated hpristine (.cons rfl ⟨_, _, rfl, rfl⟩ (.nil _)) .default
    ⟨rfl, rfl, rfl⟩

/-- A `clean` after one successful setup on a fresh device does not undo it. -/
theorem one_setup_not_undone :
    ¬ ∀ (calls : List Call) (files files' : Files) (global : GlobalArgs) (steps : CleanSteps),
      calls ≠ [] → Pristine files → RunUnder callStep SetupSucceeds files calls files' →
        steps.NoFailure → Pristine (FileM.exec (clean global steps) files').2 := by
  intro hclaim
  have hundone := hclaim [.setup .default smoothSetup] (fun _ => none) _ .default smoothClean
    (by simp) ⟨rfl, rfl⟩ (.cons rfl ⟨_, _, rfl, rfl⟩ (.nil _)) ⟨rfl, rfl, rfl⟩
  have hconfig := hundone.1
  cases hconfig

end FwVerify
