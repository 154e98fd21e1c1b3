import FwVerify.Env.ConfLines
import FwVerify.Lib.Lookups

/-!
# The generated configuration file reads back

The file `setup-env` writes names one variable on each of its lines, and reading it puts just
the written values into an environment without variables of the tool.

## Main results

* `fwvConfText_eq_unlines` — the file is its comments and its entries, line by line
* `conf_reads_back` — the generated file sets what was written, and nothing else
-/

set_option autoImplicit false

namespace FwVerify

open Lookups Text

/-! ## The written lines -/

/-- The first line of the file. -/
def headComment : String := "# fw-verify config (generated by \x60fw-verify setup-env\x60)."

/-- The line that stands for a missing client certificate. -/
def certComment : String :=
  "# set vsoc_cert/vsoc_key to the VSOC mTLS client certificate before running"

/-- The keys and values written in every mode. -/
def commonEntries (global : GlobalArgs) (topo : Topology) : List (String × String) :=
  [("mode", global.mode.lowercase), ("target_iface", topo.targetIface),
    ("peer_iface", topo.peerIface), ("peer_netns", topo.netns),
    ("target_ip", topo.targetIp.display), ("peer_ip", topo.peerIp.display),
    ("idps_fw", global.idpsFw), ("state_db", global.stateDb),
    ("app_uid", toString global.appUid), ("app_identity_key", global.appIdentityKey),
    ("app_pkg", global.appPkg), ("app_name", global.appName)]

/-- The keys and values of the client certificate, when there is one. -/
def certEntries (global : GlobalArgs) : List (String × String) :=
  match global.vsocCert, global.vsocKey with
  | some cert, some key =>
    ("vsoc_cert", cert) :: ("vsoc_key", key) ::
      (global.vsocCacert.map fun cacert => ("vsoc_cacert", cacert)).toList
  | _, _ => []

/-- The keys and values written in host mode only. -/
def vsocEntries (global : GlobalArgs) : List (String × String) :=
  ("vsoc_url", global.vsocUrl.getD "https://127.0.0.1:8443") :: certEntries global

/-- The comment for a missing client certificate. -/
def certComments (global : GlobalArgs) : List String :=
  if global.vsocCert.isSome && global.vsocKey.isSome then [] else [certComment]

/-- The keys and values of the file. -/
def confEntries (global : GlobalArgs) (topo : Topology) : List (String × String) :=
  commonEntries global topo ++ if global.mode = .host then vsocEntries global else []

/-- The comments behind the entries. -/
def tailComments (global : GlobalArgs) : List String :=
  if global.mode = .host then certComments global else []

/-- A written line and the text after it, as the writer spells them. -/
theorem entryLine_line {key header : String} (hheader : key ++ " = " = header)
    (value text : String) :
    entryLine key value ++ ("\n" ++ text) = header ++ (value ++ ("\n" ++ text)) := by
  rw [entryLine, hheader, String.append_assoc]

theorem headComment_line (text : String) :
    headComment ++ ("\n" ++ text) =
      "# fw-verify config (generated by \x60fw-verify setup-env\x60).\n" ++ text := by
  have hline : headComment ++ "\n" =
    "# fw-verify config (generated by \x60fw-verify setup-env\x60).\n" := rfl
  rw [← hline, String.append_assoc]

/-- The lines written in every mode. -/
theorem unlines_commonEntries (global : GlobalArgs) (topo : Topology) (later : List String) :
    unlines (headComment :: ((commonEntries global topo).map (fun entry =>
        entryLine entry.1 entry.2) ++ later)) =
      "# fw-verify config (generated by \x60fw-verify setup-env\x60).\n" ++
        s!"mode = {global.mode.lowercase}\n" ++
        s!"target_iface = {topo.targetIface}\n" ++
        s!"peer_iface = {topo.peerIface}\n" ++
        s!"peer_netns = {topo.netns}\n" ++
        s!"target_ip = {topo.targetIp}\n" ++
        s!"peer_ip = {topo.peerIp}\n" ++
        s!"idps_fw = {global.idpsFw}\n" ++
        s!"state_db = {global.stateDb}\n" ++
        s!"app_uid = {global.appUid}\n" ++
        s!"app_identity_key = {global.appIdentityKey}\n" ++
        s!"app_pkg = {global.appPkg}\n" ++
        s!"app_name = {global.appName}\n" ++ unlines later := by
  simp only [unlines, commonEntries, List.map_cons, List.map_nil, List.cons_append,
    List.nil_append, List.foldr_cons, String.append_assoc, headComment_line,
    @entryLine_line "mode" "mode = " rfl,
    @entryLine_line "target_iface" "target_iface = " rfl,
    @entryLine_line "peer_iface" "peer_iface = " rfl,
    @entryLine_line "peer_netns" "peer_netns = " rfl,
    @entryLine_line "target_ip" "target_ip = " rfl,
    @entryLine_line "peer_ip" "peer_ip = " rfl,
    @entryLine_line "idps_fw" "idps_fw = " rfl,
    @entryLine_line "state_db" "state_db = " rfl,
    @entryLine_line "app_uid" "app_uid = " rfl,
    @entryLine_line "app_identity_key" "app_identity_key = " rfl,
    @entryLine_line "app_pkg" "app_pkg = " rfl,
    @entryLine_line "app_name" "app_name = " rfl]
  rfl

/-- The lines written in host mode only. -/
theorem unlines_vsocEntries (global : GlobalArgs) :
    unlines (((vsocEntries global).map fun entry => entryLine entry.1 entry.2) ++
      certComments global) = fwvConfVsoc global := by
  have hurl := @entryLine_line "vsoc_url" "vsoc_url = " rfl
  have hkeyLine := @entryLine_line "vsoc_key" "vsoc_key = " rfl
  have hcacertLine := @entryLine_line "vsoc_cacert" "vsoc_cacert = " rfl
  have hbreak (text : String) : "\n" ++ ("vsoc_key = " ++ text) = "\nvsoc_key = " ++ text := by
    rw [← String.append_assoc]
    rfl
  cases hcert : global.vsocCert with
  | none =>
    simp only [vsocEntries, certEntries, certComments, fwvConfVsoc, hcert, unlines,
      List.map_cons, List.map_nil, List.cons_append, List.nil_append, List.foldr_cons,
      String.append_assoc, hurl]
    rfl
  | some cert =>
    cases hkey : global.vsocKey with
    | none =>
      simp only [vsocEntries, certEntries, certComments, fwvConfVsoc, hcert, hkey, unlines,
        List.map_cons, List.map_nil, List.cons_append, List.nil_append, List.foldr_cons,
        String.append_assoc, hurl]
      rfl
    | some key =>
      cases hcacert : global.vsocCacert with
      | none =>
        simp only [vsocEntries, certEntries, certComments, fwvConfVsoc, hcert, hkey, hcacert,
          unlines, Option.map_none, Option.toList_none, List.map_cons, List.map_nil,
          List.cons_append, List.nil_append, List.foldr_cons, String.append_assoc, hurl,
          hkeyLine, hbreak]
        rfl
      | some cacert =>
        simp only [vsocEntries, certEntries, certComments, fwvConfVsoc, hcert, hkey, hcacert,
          unlines, Option.map_some, Option.toList_some, List.map_cons, List.map_nil,
          List.cons_append, List.nil_append, List.foldr_cons, String.append_assoc, hurl,
          hkeyLine, hcacertLine, hbreak]
        rfl

/-- The file is its comments and its entries, line by line. -/
theorem fwvConfText_eq_unlines (global : GlobalArgs) (topo : Topology) :
    fwvConfText global topo =
      unlines (headComment :: ((confEntries global topo).map (fun entry =>
        entryLine entry.1 entry.2) ++ tailComments global)) := by
  rw [confEntries, tailComments, List.map_append, List.append_assoc, unlines_commonEntries]
  delta fwvConfText
  by_cases hmode : global.mode = .host
  · rw [if_pos hmode, if_pos hmode, if_pos hmode, unlines_vsocEntries]
  · rw [if_neg hmode, if_neg hmode, if_neg hmode]
    rfl

/-! ## The written values and keys -/

theorem plainValue_mode (mode : Mode) : PlainValue mode.lowercase := by
  apply PlainValue.of_all
  cases mode <;> decide

theorem plainValue_repr (n : Nat) : PlainValue n.repr := by
  apply PlainValue.of_forall
  intro c hc
  have hdigit := isDigit_of_mem_repr hc
  refine ⟨isWhite_of_isDigit hdigit, ?_⟩
  rintro rfl
  revert hdigit
  decide

theorem plainValue_display (ip : IpAddr) : PlainValue ip.display := by
  have hhex : ∀ k < 16, isWhite (Nat.digitChar k) = false ∧ Nat.digitChar k ≠ '"' := by decide
  apply PlainValue.of_forall
  intro c hc
  by_contra hplain
  refine ip.not_mem_display ?_ ?_ ?_ ?_ hc
  · rintro k hk rfl
    exact hplain (hhex k hk)
  · rw [Bool.eq_false_iff]
    intro hdigit
    refine hplain ⟨isWhite_of_isDigit hdigit, ?_⟩
    rintro rfl
    revert hdigit
    decide
  · rintro rfl
    exact hplain (by decide)
  · rintro rfl
    exact hplain (by decide)

/-- The strings among the options that the file carries. -/
def confStrings (global : GlobalArgs) (topo : Topology) : List String :=
  [topo.targetIface, topo.peerIface, topo.netns, global.idpsFw, global.stateDb,
    global.appIdentityKey, global.appPkg, global.appName] ++ global.vsocUrl.toList ++
    global.vsocCert.toList ++ global.vsocKey.toList ++ global.vsocCacert.toList

/-- Every written value is plain when the options are. -/
theorem plainValue_of_mem {global : GlobalArgs} {topo : Topology}
    (hplain : ∀ s ∈ confStrings global topo, PlainValue s) :
    ∀ entry ∈ confEntries global topo, PlainValue entry.2 := by
  have hcommon : ∀ entry ∈ commonEntries global topo, PlainValue entry.2 := by
    simp only [commonEntries, List.forall_mem_cons]
    refine ⟨plainValue_mode _, ?_, ?_, ?_, plainValue_display _, plainValue_display _, ?_, ?_,
      plainValue_repr _, ?_, ?_, ?_, by simp⟩ <;>
    · apply hplain
      simp [confStrings]
  have hurl : PlainValue (global.vsocUrl.getD "https://127.0.0.1:8443") := by
    cases hgiven : global.vsocUrl with
    | none => exact PlainValue.of_all (by decide)
    | some url => exact hplain url (by simp [confStrings, hgiven])
  have hcert : ∀ entry ∈ certEntries global, PlainValue entry.2 := by
    rw [certEntries]
    split
    · next cert key hgivenCert hgivenKey =>
      simp only [List.forall_mem_cons]
      refine ⟨hplain cert (by simp [confStrings, hgivenCert]),
        hplain key (by simp [confStrings, hgivenKey]), ?_⟩
      intro entry hentry
      obtain ⟨cacert, hcacert, rfl⟩ := Option.map_eq_some_iff.mp (Option.mem_toList.mp hentry)
      exact hplain cacert (by simp [confStrings, hcacert])
    · simp
  intro entry hentry
  rw [confEntries, List.mem_append] at hentry
  rcases hentry with h | h
  · exact hcommon entry h
  · split_ifs at h with hmode
    · rcases List.mem_cons.mp h with rfl | h
      · exact hurl
      · exact hcert entry h
    · exact absurd h List.not_mem_nil

/-- The keys of the file, in its order. -/
def confKeys : List String :=
  ["mode", "target_iface", "peer_iface", "peer_netns", "target_ip", "peer_ip", "idps_fw",
    "state_db", "app_uid", "app_identity_key", "app_pkg", "app_name", "vsoc_url", "vsoc_cert",
    "vsoc_key", "vsoc_cacert"]

theorem confEntries_keys (global : GlobalArgs) (topo : Topology) :
    ((confEntries global topo).map Prod.fst).Sublist confKeys := by
  have hcommon : (commonEntries global topo).map Prod.fst = confKeys.take 12 := rfl
  have hvsoc : ((vsocEntries global).map Prod.fst).Sublist (confKeys.drop 12) := by
    rw [vsocEntries, certEntries]
    split
    · cases global.vsocCacert with
      | none =>
        change ["vsoc_url", "vsoc_cert", "vsoc_key"].Sublist _
        decide
      | some cacert => exact List.Sublist.refl _
    · change ["vsoc_url"].Sublist _
      decide
  rw [confEntries, List.map_append, hcommon, ← List.take_append_drop 12 confKeys]
  apply List.Sublist.append (List.Sublist.refl _)
  split_ifs
  · exact hvsoc
  · exact List.nil_sublist _

theorem confKeys_plain : ∀ key ∈ confKeys, PlainKey key ∧ (configKeyToEnv key).isSome := by
  decide +kernel

theorem confKeys_vars_nodup : (confKeys.map configKeyToEnv).Nodup := by
  decide +kernel

/-! ## Reading the file -/

/-- The settings the entries of a file stand for. -/
def settings (entries : List (String × String)) : List (String × String) :=
  entries.filterMap fun entry => (configKeyToEnv entry.1).map fun var => (var, entry.2)

theorem filterMap_parse_entries {entries : List (String × String)}
    (hkeys : ∀ entry ∈ entries, PlainKey entry.1 ∧ (configKeyToEnv entry.1).isSome)
    (hvalues : ∀ entry ∈ entries, PlainValue entry.2) :
    (entries.map fun entry => entryLine entry.1 entry.2).filterMap parseConfLine =
      settings entries := by
  rw [List.filterMap_map, settings]
  apply List.filterMap_congr
  intro entry hentry
  obtain ⟨var, hvar⟩ := Option.isSome_iff_exists.mp (hkeys entry hentry).2
  rw [Function.comp_apply, hvar]
  exact parseConfLine_entry (hkeys entry hentry).1 hvar (hvalues entry hentry)

/-- The comments are single lines. -/
theorem comments_oneLine :
    ∀ line ∈ [headComment, certComment], line.toList.head? = some '#' ∧ '\n' ∉ line.toList ∧
      line.toList.getLast? ≠ some '\r' := by
  decide +kernel

theorem tailComments_subset (global : GlobalArgs) : tailComments global ⊆ [certComment] := by
  rw [tailComments, certComments]
  split_ifs <;> simp

theorem confEntries_keys_known {global : GlobalArgs} {topo : Topology} :
    ∀ entry ∈ confEntries global topo, PlainKey entry.1 ∧ (configKeyToEnv entry.1).isSome := by
  intro entry hentry
  exact confKeys_plain _ ((confEntries_keys global topo).subset (List.mem_map_of_mem hentry))

/-- What reading the file leaves in a variable. -/
theorem applyConfigEnv_fwvConfText {global : GlobalArgs} {topo : Topology}
    (hplain : ∀ s ∈ confStrings global topo, PlainValue s) (env : EnvVars) (var : String) :
    applyConfigEnv (fwvConfText global topo) env var =
      (env var).or ((settings (confEntries global topo)).lookup var) := by
  have hkeys := @confEntries_keys_known global topo
  have hvalues := plainValue_of_mem hplain
  have htail : ∀ line ∈ tailComments global, line ∈ [headComment, certComment] :=
    fun line hline => List.mem_cons_of_mem _ (tailComments_subset global hline)
  have hlines : ∀ line ∈ headComment :: ((confEntries global topo).map (fun entry =>
      entryLine entry.1 entry.2) ++ tailComments global), '\n' ∉ line.toList ∧
        line.toList.getLast? ≠ some '\r' := by
    intro line hline
    rcases List.mem_cons.mp hline with rfl | hline
    · exact (comments_oneLine headComment List.mem_cons_self).2
    rcases List.mem_append.mp hline with hline | hline
    · obtain ⟨entry, hentry, rfl⟩ := List.mem_map.mp hline
      exact entryLine_oneLine (hkeys entry hentry).1 (hvalues entry hentry)
    · exact (comments_oneLine line (htail line hline)).2
  have htailNone : (tailComments global).filterMap parseConfLine = [] := by
    rw [List.filterMap_eq_nil_iff]
    exact fun line hline => parseConfLine_hash (comments_oneLine line (htail line hline)).1
  rw [applyConfigEnv_eq, fwvConfText_eq_unlines,
    lines_unlines (fun line hline => (hlines line hline).1)
      (fun line hline => (hlines line hline).2),
    List.filterMap_cons_none
      (parseConfLine_hash (comments_oneLine headComment List.mem_cons_self).1),
    List.filterMap_append, htailNone, List.append_nil, filterMap_parse_entries hkeys hvalues,
    foldl_setDefault]

/-- The variables of a list of known keys. -/
theorem settings_vars {entries : List (String × String)}
    (hkeys : ∀ entry ∈ entries, (configKeyToEnv entry.1).isSome) :
    ((settings entries).map Prod.fst).map some =
      (entries.map Prod.fst).map configKeyToEnv := by
  induction entries with
  | nil => rfl
  | cons entry entries ih =>
    rw [List.forall_mem_cons] at hkeys
    obtain ⟨var, hvar⟩ := Option.isSome_iff_exists.mp hkeys.1
    simp only [settings] at ih ⊢
    rw [List.filterMap_cons_some (by rw [hvar, Option.map_some]), List.map_cons, List.map_cons,
      ih hkeys.2, List.map_cons, List.map_cons, hvar]

/-- Each entry's variable is set by that entry alone. -/
theorem lookup_settings {global : GlobalArgs} {topo : Topology} {entry : String × String}
    {var : String} (hentry : entry ∈ confEntries global topo)
    (hvar : configKeyToEnv entry.1 = some var) :
    (settings (confEntries global topo)).lookup var = some entry.2 := by
  apply lookup_of_nodup
  · have hnodup := confKeys_vars_nodup.sublist ((confEntries_keys global topo).map configKeyToEnv)
    rw [← settings_vars fun entry hentry => (confEntries_keys_known entry hentry).2] at hnodup
    exact hnodup.of_map some
  · rw [settings, List.mem_filterMap]
    exact ⟨entry, hentry, by rw [hvar, Option.map_some]⟩

/-- A variable the file does not name is left alone. -/
theorem lookup_settings_eq_none {entries : List (String × String)} {var : String}
    (hvar : ∀ entry ∈ entries, configKeyToEnv entry.1 ≠ some var) :
    (settings entries).lookup var = none := by
  rw [List.lookup_eq_none_iff]
  rintro ⟨name, value⟩ hmem
  rw [settings, List.mem_filterMap] at hmem
  obtain ⟨entry, hentry, hsetting⟩ := hmem
  obtain ⟨found, hfound, heq⟩ := Option.map_eq_some_iff.mp hsetting
  cases heq
  simpa using fun h : var = name => hvar entry hentry (h ▸ hfound)

/-- The variables of the tool all begin alike. -/
theorem configKeyToEnv_begins {key var : String} (hvar : configKeyToEnv key = some var) :
    "FWV_".toList <+: var.toList := by
  unfold configKeyToEnv at hvar
  split at hvar <;> first | cases hvar; decide | cases hvar

section ReadsBack

variable {global : GlobalArgs} {topo : Topology} {env : EnvVars}

/-- A written value is what its variable is set to. -/
theorem applyConfigEnv_entry (hplain : ∀ s ∈ confStrings global topo, PlainValue s)
    (hunset : ∀ var : String, "FWV_".toList <+: var.toList → env var = none)
    {entry : String × String} {var : String} (hentry : entry ∈ confEntries global topo)
    (hvar : configKeyToEnv entry.1 = some var) :
    applyConfigEnv (fwvConfText global topo) env var = some entry.2 := by
  rw [applyConfigEnv_fwvConfText hplain, hunset var (configKeyToEnv_begins hvar),
    Option.none_or, lookup_settings hentry hvar]

/-- A variable whose key is not written is left alone. -/
theorem applyConfigEnv_unwritten (hplain : ∀ s ∈ confStrings global topo, PlainValue s)
    {var : String} (hvar : ∀ entry ∈ confEntries global topo, configKeyToEnv entry.1 ≠ some var) :
    applyConfigEnv (fwvConfText global topo) env var = env var := by
  rw [applyConfigEnv_fwvConfText hplain, lookup_settings_eq_none hvar, Option.or_none]

end ReadsBack

/-- Whatever the options are, as long as their strings are plain, the generated file reads back:
in an environment without variables of the tool each key it names gives its variable the
written value, and no other variable changes. -/
theorem conf_reads_back (global : GlobalArgs) (topo : Topology)
    (hplain : ∀ s ∈ confStrings global topo, PlainValue s) (env : EnvVars)
    (hunset : ∀ var : String, "FWV_".toList <+: var.toList → env var = none) :
    (∀ entry ∈ confEntries global topo, ∃ var, configKeyToEnv entry.1 = some var ∧
      applyConfigEnv (fwvConfText global topo) env var = some entry.2) ∧
    ∀ var, (∀ entry ∈ confEntries global topo, configKeyToEnv entry.1 ≠ some var) →
      applyConfigEnv (fwvConfText global topo) env var = env var := by
  constructor
  · intro entry hentry
    obtain ⟨var, hvar⟩ := Option.isSome_iff_exists.mp (confEntries_keys_known entry hentry).2
    exact ⟨var, hvar, applyConfigEnv_entry hplain hunset hentry hvar⟩
  · intro var hvar
    exact applyConfigEnv_unwritten hplain hvar

theorem plainValue_default :
    ∀ s ∈ confStrings .default (Topology.ofGlobal .default), PlainValue s := by
  intro s hs
  apply PlainValue.of_all
  revert s
  decide +kernel

/-- The default options in an empty environment. -/
theorem conf_reads_back_default :
    (∃ var, configKeyToEnv "peer_netns" = some var ∧
      applyConfigEnv (fwvConfText .default (Topology.ofGlobal .default)) (fun _ => none) var =
        some "fwpeer") ∧
    applyConfigEnv (fwvConfText .default (Topology.ofGlobal .default)) (fun _ => none)
      "FWV_VETH_PREFIX" = none := by
  have hreads := conf_reads_back .default (Topology.ofGlobal .default) plainValue_default
    (fun _ => none) (fun _ _ => rfl)
  refine ⟨hreads.1 ("peer_netns", "fwpeer") ?_, hreads.2 "FWV_VETH_PREFIX" ?_⟩
  · simp [confEntries, commonEntries, Topology.ofGlobal, GlobalArgs.default]
  · decide

end FwVerify
