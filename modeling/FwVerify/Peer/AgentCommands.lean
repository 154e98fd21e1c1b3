import FwVerify.Model.AgentCommand
import FwVerify.Model.Runner
import FwVerify.Model.Monitor
import FwVerify.Peer.CommandLine

/-!
# What the workers are told

Every worker the orchestrator starts reads its command line as what it is meant to do: the traffic
of a request, a listener of a case, and the workers of the monitor cases. The one text of a
configuration that is handed over as it is, the name of an interface, is refused when it looks like
an option.

## Main results

* `agentCommand_parse` — a command line of the worker is read by its subcommand
* `worker_command_lines` — what the workers are told
-/

set_option autoImplicit false

namespace FwVerify

open Options Text

/-! ## Reading -/

/-- The worker's subcommand stands right behind `agent`, and the rest is its own command line. -/
theorem agentCommand_parse (name : String) {command : Command} {tokens : List String}
    (hcommand : agentCommandTable.lookup name = some command)
    (hplain : looksLikeOption name = false) :
    AgentCommand.parse (agentArgs (name :: tokens)) =
      (command.parse tokens).bind (AgentCommand.ofPieces name) := by
  have hglobals : parseCommand GlobalArgs.decls (agentArgs (name :: tokens)) =
      some ([], "agent", name :: tokens) := by
    rfl
  have hsub : parseCommand [modeDecl] (name :: tokens) = some ([], name, tokens) := by
    rw [parseCommand, scanCommand, longName_eq_none hplain]
    simp [hplain]
    rfl
  rw [AgentCommand.parse, Cli.parse, hglobals]
  simp only [Option.bind_eq_bind, Option.bind_some, if_true, hsub, hcommand, Option.bind_assoc]
  rfl

theorem rangedU16_toString (n : UInt16) : rangedU16 (toString n) = some n := by
  have hlt : n.toNat < 2 ^ 16 := n.toNat_lt
  have hread : parseSigned 0 (2 ^ 16 - 1) n.toNat.repr = some (n.toNat : Int) :=
    parseSigned_repr (by omega) (by omega)
  change ((parseSigned 0 (2 ^ 16 - 1) n.toNat.repr).map Int.toNat).map UInt16.ofNat = some n
  rw [hread, Option.map_some, Option.map_some, Int.toNat_natCast, UInt16.ofNat_toNat]

theorem rangedU32_toString (n : UInt32) : rangedU32 (toString n) = some n := by
  have hlt : n.toNat < 2 ^ 32 := n.toNat_lt
  have hread : parseSigned 0 (2 ^ 32 - 1) n.toNat.repr = some (n.toNat : Int) :=
    parseSigned_repr (by omega) (by omega)
  change ((parseSigned 0 (2 ^ 32 - 1) n.toNat.repr).map Int.toNat).map UInt32.ofNat = some n
  rw [hread, Option.map_some, Option.map_some, Int.toNat_natCast, UInt32.ofNat_toNat]

/-- What reads as a `u16` is one of its values. -/
theorem rangedU16_reads {s : String} {n : UInt16} (h : rangedU16 s = some n) :
    (parseRanged (2 ^ 16 - 1) s).isSome = true := by
  rw [← Option.isSome_map (f := UInt16.ofNat)]
  exact Option.isSome_of_mem h

theorem rangedU32_reads {s : String} {n : UInt32} (h : rangedU32 s = some n) :
    (parseRanged (2 ^ 32 - 1) s).isSome = true := by
  rw [← Option.isSome_map (f := UInt32.ofNat)]
  exact Option.isSome_of_mem h

theorem u64_reads {s : String} {n : UInt64} (h : parseU64 s = some n) :
    (parseUnsigned (2 ^ 64) s).isSome = true := by
  rw [← Option.isSome_map (f := UInt64.ofNat)]
  exact Option.isSome_of_mem h

section Values

variable {α : Type} {read : String → Option α} {name text : String} {pieces : List Piece} {a : α}

theorem givenValue_eq (hvalues : values name pieces = [text]) (hread : read text = some a) :
    givenValue read name pieces = some a := by
  rw [givenValue, optValue_of_values (o := some text) hvalues]
  exact hread

theorem valueOr_given (default : α) (hvalues : values name pieces = [text])
    (hread : read text = some a) : valueOr read name pieces default = some a := by
  rw [valueOr, optValue_of_values (o := some text) hvalues]
  simp [readOpt, hread]

theorem valueOr_default (default : α) (hvalues : values name pieces = []) :
    valueOr read name pieces default = some default := by
  rw [valueOr, optValue_of_values (o := none) hvalues]
  rfl

end Values

/-! ## Listeners -/

/-- The pieces of a listener's command line. -/
def listenPieces (proto : String) (port : UInt16) (durationSecs : UInt64) (hold : Bool) :
    List Piece :=
  [.positional proto] ++ optPiece "port" (some (toString port)) ++
    optPiece "duration-secs" (some (toString durationSecs)) ++ flagPiece "hold" hold

theorem wellNamed_listen : WellNamed (arities ListenArgs.command.decls) := by
  unfold WellNamed
  decide

theorem hyphen_not_mem_toString (n : Nat) : '-' ∉ (toString n).toList := not_mem_repr (by decide)

/-- A listener's command line is read as its arguments. -/
theorem parse_listen (p : ListenProto) (port : UInt16) (durationSecs : UInt64) (hold : Bool) :
    AgentCommand.parse (agentArgs ("listen" ::
      (listenPieces p.lowercase port durationSecs hold).flatMap Piece.render)) =
        some (.listen ⟨p, port, durationSecs, hold⟩) := by
  have hproto : ListenProto.parse p.lowercase = some p := by cases p <;> rfl
  have hplain : looksLikeOption p.lowercase = false := by cases p <;> decide
  -- what stands in the pieces, option by option
  have hpos : positionals (listenPieces p.lowercase port durationSecs hold) = [p.lowercase] := by
    simp [listenPieces]
  have hmode : values "mode" (listenPieces p.lowercase port durationSecs hold) = [] := by
    simp [listenPieces]
  have hport : values "port" (listenPieces p.lowercase port durationSecs hold) =
      [toString port] := by
    simp [listenPieces]
  have hsecs : values "duration-secs" (listenPieces p.lowercase port durationSecs hold) =
      [toString durationSecs] := by
    simp [listenPieces]
  have hhold : values "hold" (listenPieces p.lowercase port durationSecs hold) = [] := by
    simp [listenPieces]
  have hflags (name : String) :
      flagCount name (listenPieces p.lowercase port durationSecs hold) =
        if "hold" = name ∧ hold = true then 1 else 0 := by
    simp [listenPieces]
  have hset : flagSet "hold" (listenPieces p.lowercase port durationSecs hold) = some hold :=
    flagSet_of_count (by simp [hflags])
  have hparse : ListenArgs.command.parse
      ((listenPieces p.lowercase port durationSecs hold).flatMap Piece.render) =
        some (listenPieces p.lowercase port durationSecs hold) := by
    apply Command.parse_render
    · intro piece hpiece
      simp only [listenPieces, List.mem_append, List.mem_singleton] at hpiece
      rcases hpiece with ((rfl | h) | h) | h
      · exact hplain
      · refine renderable_optPiece wellNamed_listen rfl ?_ piece h
        rintro value ⟨⟩
        exact hyphen_not_mem_toString port.toNat
      · refine renderable_optPiece wellNamed_listen rfl ?_ piece h
        rintro value ⟨⟩
        exact hyphen_not_mem_toString durationSecs.toNat
      · exact renderable_flagPiece wellNamed_listen rfl piece h
    · simp only [ListenArgs.command, withMode, List.forall_mem_cons]
      refine ⟨?_, ?_, ?_, ?_, fun _ h => absurd h List.not_mem_nil⟩
      · exact OptionDecl.accepts_value (o := none) hmode (by simp [hflags]) fun v h => by cases h
      · exact OptionDecl.accepts_needed hport (by simp [hflags])
          (rangedU16_reads (rangedU16_toString port))
      · refine OptionDecl.accepts_value (o := some _) hsecs (by simp [hflags]) ?_
        rintro v ⟨⟩
        exact u64_reads (parseU64_toString durationSecs)
      · refine OptionDecl.accepts_flag hhold ?_
        rw [hflags]
        split <;> omega
    · rw [hpos]
      rfl
    · rw [hpos]
      simp [ListenArgs.command, withMode, readsAs, hproto]
  rw [agentCommand_parse "listen" rfl (by decide), hparse, Option.bind_some]
  change (ListenArgs.ofPieces _).map AgentCommand.listen = _
  rw [ListenArgs.ofPieces, hpos]
  simp only [hproto, givenValue_eq hport (rangedU16_toString port),
    valueOr_given 60 hsecs (parseU64_toString durationSecs), hset, Option.bind_eq_bind,
    Option.bind_some]
  rfl

/-! ## Floods -/

/-- The pieces of a flood's command line, which leaves out the timeout. -/
def connFloodPieces (toAddr : IpAddr) (dport : UInt16) (count : UInt32) (holdSecs : UInt64) :
    List Piece :=
  optPiece "to" (some toAddr.display) ++ optPiece "dport" (some (toString dport)) ++
    optPiece "count" (some (toString count)) ++ optPiece "hold-secs" (some (toString holdSecs))

theorem wellNamed_connFlood : WellNamed (arities ConnFloodArgs.command.decls) := by
  unfold WellNamed
  decide

/-- A flood's command line is read as its arguments. -/
theorem parse_connFlood (toAddr : IpAddr) (dport : UInt16) (count : UInt32) (holdSecs : UInt64) :
    AgentCommand.parse (agentArgs ("conn-flood" ::
      (connFloodPieces toAddr dport count holdSecs).flatMap Piece.render)) =
        some (.connFlood ⟨toAddr, dport, count, holdSecs, 2000⟩) := by
  obtain ⟨pieces, hpieces⟩ : ∃ pieces, pieces = connFloodPieces toAddr dport count holdSecs :=
    ⟨_, rfl⟩
  have hpos : positionals pieces = [] := by simp [hpieces, connFloodPieces]
  have hmode : values "mode" pieces = [] := by simp [hpieces, connFloodPieces]
  have hto : values "to" pieces = [toAddr.display] := by simp [hpieces, connFloodPieces]
  have hdport : values "dport" pieces = [toString dport] := by simp [hpieces, connFloodPieces]
  have hcount : values "count" pieces = [toString count] := by simp [hpieces, connFloodPieces]
  have hhold : values "hold-secs" pieces = [toString holdSecs] := by
    simp [hpieces, connFloodPieces]
  have htimeout : values "timeout-ms" pieces = [] := by simp [hpieces, connFloodPieces]
  have hflags (name : String) : flagCount name pieces = 0 := by simp [hpieces, connFloodPieces]
  have hparse : ConnFloodArgs.command.parse (pieces.flatMap Piece.render) = some pieces := by
    apply Command.parse_render
    · intro piece hpiece
      simp only [hpieces, connFloodPieces, List.mem_append] at hpiece
      rcases hpiece with ((h | h) | h) | h
      · refine renderable_optPiece wellNamed_connFlood rfl ?_ piece h
        rintro value ⟨⟩
        exact toAddr.hyphen_not_mem_display
      · refine renderable_optPiece wellNamed_connFlood rfl ?_ piece h
        rintro value ⟨⟩
        exact hyphen_not_mem_toString dport.toNat
      · refine renderable_optPiece wellNamed_connFlood rfl ?_ piece h
        rintro value ⟨⟩
        exact hyphen_not_mem_toString count.toNat
      · refine renderable_optPiece wellNamed_connFlood rfl ?_ piece h
        rintro value ⟨⟩
        exact hyphen_not_mem_toString holdSecs.toNat
    · simp only [ConnFloodArgs.command, withMode, List.forall_mem_cons]
      refine ⟨?_, ?_, ?_, ?_, ?_, ?_, fun _ h => absurd h List.not_mem_nil⟩
      · exact OptionDecl.accepts_value (o := none) hmode (hflags _) fun v h => by cases h
      · refine OptionDecl.accepts_needed hto (hflags _) ?_
        rw [toAddr.parse_display]
        rfl
      · exact OptionDecl.accepts_needed hdport (hflags _)
          (rangedU16_reads (rangedU16_toString dport))
      · refine OptionDecl.accepts_value (o := some _) hcount (hflags _) ?_
        rintro v ⟨⟩
        exact rangedU32_reads (rangedU32_toString count)
      · refine OptionDecl.accepts_value (o := some _) hhold (hflags _) ?_
        rintro v ⟨⟩
        exact u64_reads (parseU64_toString holdSecs)
      · exact OptionDecl.accepts_value (o := none) htimeout (hflags _) fun v h => by cases h
    · rw [hpos]
      rfl
    · rw [hpos]
      simp
  rw [← hpieces, agentCommand_parse "conn-flood" rfl (by decide), hparse,
    Option.bind_some]
  change (ConnFloodArgs.ofPieces pieces).map AgentCommand.connFlood = _
  simp only [ConnFloodArgs.ofPieces, givenValue_eq hto toAddr.parse_display,
    givenValue_eq hdport (rangedU16_toString dport),
    valueOr_given 60 hcount (rangedU32_toString count),
    valueOr_given 15 hhold (parseU64_toString holdSecs), valueOr_default (2000 : UInt64) htimeout,
    Option.bind_eq_bind, Option.bind_some]
  rfl

/-! ## ARP replies -/

/-- The pieces of an `arp-spoof` command line. -/
def arpSpoofPieces (iface : String) (claimIp : Ipv4Addr) (count : UInt32) : List Piece :=
  optPiece "iface" (some iface) ++ optPiece "claim-ip" (some claimIp.display) ++
    optPiece "count" (some (toString count))

theorem wellNamed_arpSpoof : WellNamed (arities ArpSpoofArgs.command.decls) := by
  unfold WellNamed
  decide

/-- An `arp-spoof` command line is read as its arguments, unless the interface looks like an
option. -/
theorem parse_arpSpoof (iface : String) (claimIp : Ipv4Addr) (count : UInt32) :
    AgentCommand.parse (agentArgs ("arp-spoof" ::
      (arpSpoofPieces iface claimIp count).flatMap Piece.render)) =
        if looksLikeOption iface then none else some (.arpSpoof ⟨iface, claimIp, count⟩) := by
  rw [agentCommand_parse "arp-spoof" rfl (by decide)]
  by_cases hoption : looksLikeOption iface = true
  · -- the name is no value, so the option in front of it has none
    have hscan : scan (arities ArpSpoofArgs.command.decls)
        ((arpSpoofPieces iface claimIp count).flatMap Piece.render) = none := by
      change scan (arities ArpSpoofArgs.command.decls) (("--" ++ "iface") :: iface :: _) = none
      rw [scan_long (by decide) (by decide)]
      change (if looksLikeOption iface then none else _) = none
      rw [if_pos hoption]
    rw [if_pos hoption, Command.parse, hscan]
    rfl
  rw [if_neg hoption]
  obtain ⟨pieces, hpieces⟩ : ∃ pieces, pieces = arpSpoofPieces iface claimIp count := ⟨_, rfl⟩
  have hpos : positionals pieces = [] := by simp [hpieces, arpSpoofPieces]
  have hmode : values "mode" pieces = [] := by simp [hpieces, arpSpoofPieces]
  have hiface : values "iface" pieces = [iface] := by simp [hpieces, arpSpoofPieces]
  have hclaim : values "claim-ip" pieces = [claimIp.display] := by
    simp [hpieces, arpSpoofPieces]
  have hcount : values "count" pieces = [toString count] := by simp [hpieces, arpSpoofPieces]
  have hflags (name : String) : flagCount name pieces = 0 := by simp [hpieces, arpSpoofPieces]
  have hparse : ArpSpoofArgs.command.parse (pieces.flatMap Piece.render) = some pieces := by
    apply Command.parse_render
    · intro piece hpiece
      simp only [hpieces, arpSpoofPieces, List.mem_append] at hpiece
      rcases hpiece with (h | h) | h
      · obtain rfl := List.mem_singleton.mp h
        exact ⟨by decide, by decide, rfl, Bool.eq_false_of_not_eq_true hoption⟩
      · refine renderable_optPiece wellNamed_arpSpoof rfl ?_ piece h
        rintro value ⟨⟩
        exact claimIp.not_mem_display (by decide) (by decide)
      · refine renderable_optPiece wellNamed_arpSpoof rfl ?_ piece h
        rintro value ⟨⟩
        exact hyphen_not_mem_toString count.toNat
    · simp only [ArpSpoofArgs.command, withMode, List.forall_mem_cons]
      refine ⟨?_, ?_, ?_, ?_, fun _ h => absurd h List.not_mem_nil⟩
      · exact OptionDecl.accepts_value (o := none) hmode (hflags _) fun v h => by cases h
      · exact OptionDecl.accepts_needed hiface (hflags _) rfl
      · refine OptionDecl.accepts_needed hclaim (hflags _) ?_
        rw [claimIp.parse_display]
        rfl
      · refine OptionDecl.accepts_value (o := some _) hcount (hflags _) ?_
        rintro v ⟨⟩
        exact rangedU32_reads (rangedU32_toString count)
    · rw [hpos]
      rfl
    · rw [hpos]
      simp
  rw [← hpieces, hparse, Option.bind_some]
  change (ArpSpoofArgs.ofPieces pieces).map AgentCommand.arpSpoof = _
  simp only [ArpSpoofArgs.ofPieces, givenValue_eq (a := iface) hiface rfl,
    givenValue_eq hclaim claimIp.parse_display, valueOr_given 5 hcount (rangedU32_toString count),
    Option.bind_eq_bind, Option.bind_some]
  rfl

/-! ## Traffic -/

/-- The options a request is rendered with are declared, beside the shared one. -/
theorem renderable_mode {piece : Piece} (h : piece.Renderable trafficDecls) :
    piece.Renderable (("mode", .value) :: trafficDecls) := by
  have hlookup {name : String} {arity : Arity} (h : trafficDecls.lookup name = some arity) :
      List.lookup name (("mode", .value) :: trafficDecls) = some arity := by
    rw [List.lookup_cons]
    split
    · next hname =>
      rw [beq_iff_eq.mp hname] at h
      cases h
    · exact h
  cases piece with
  | positional value => exact h
  | option name value => exact ⟨h.1, h.2.1, hlookup h.2.2.1, h.2.2.2⟩
  | flag name => exact ⟨h.1, h.2.1, hlookup h.2.2⟩

/-- A request's command line, read with the options of its own subcommand. -/
theorem parse_traffic (cmd : TrafficCmd) (uid : Option UInt32) {p : Proto}
    (hproto : cmd.proto = p.lowercase) :
    AgentCommand.parse (agentArgs (cmd.argv uid)) = some (.traffic (cmd.args uid p)) := by
  have hread := parse_argv IpAddr.parse cmd uid hproto cmd.toAddr.parse_display
  obtain ⟨hargv, hscan⟩ := cmd.scan_argv uid hproto
  have hpieces : TrafficArgs.ofPieces IpAddr.parse (cmd.pieces uid) = some (cmd.args uid p) := by
    rw [hargv, TrafficArgs.parse, hscan] at hread
    exact hread
  have hpos := cmd.positionals_pieces uid
  have hflags (name : String) : flagCount name (cmd.pieces uid) =
      (if "await-reply" = name ∧ cmd.awaitReply = true then 1 else 0) +
        if "fin-only" = name ∧ cmd.finOnly = true then 1 else 0 := by
    simp [TrafficCmd.pieces]
  have hto : values "to" (cmd.pieces uid) = [cmd.toAddr.display] := by simp [TrafficCmd.pieces]
  -- every value is a printed number, an address, a list, or the name of a kind
  have hu16 (n : UInt16) := rangedU16_reads (rangedU16_toString n)
  have hu32 (n : UInt32) := rangedU32_reads (rangedU32_toString n)
  have hu64 (n : UInt64) := u64_reads (parseU64_toString n)
  have hmap {α β : Type} {parse : String → Option β} {print : α → String}
      (h : ∀ a, (parse (print a)).isSome = true) (o : Option α) (v : String)
      (hv : o.map print = some v) : (parse v).isSome = true := by
    obtain ⟨a, -, rfl⟩ := Option.map_eq_some_iff.mp hv
    exact h a
  have hite {β : Type} {parse : String → Option β} {text : String}
      (h : (parse text).isSome = true) (c : Prop) [Decidable c] (v : String)
      (hv : (if c then some text else none) = some v) : (parse v).isSome = true := by
    split at hv
    · cases hv
      exact h
    · cases hv
  have hparse : TrafficArgs.command.parse ((cmd.pieces uid).flatMap Piece.render) =
      some (cmd.pieces uid) := by
    apply Command.parse_render
    · exact fun piece hpiece => renderable_mode (cmd.renderable_pieces uid hproto piece hpiece)
    · simp only [TrafficArgs.command, withMode, List.forall_mem_cons]
      refine ⟨?_, ?_, ?_, ?_, ?_, ?_, ?_, ?_, ?_, ?_, ?_, ?_, fun _ h => absurd h List.not_mem_nil⟩
      · exact OptionDecl.accepts_value (o := none) (by simp [TrafficCmd.pieces]) (by simp [hflags])
          fun v h => by cases h
      · refine OptionDecl.accepts_needed hto (by simp [hflags]) ?_
        rw [cmd.toAddr.parse_display]
        rfl
      · refine OptionDecl.accepts_value
          (o := if cmd.dports.isSome then none else cmd.dport.map toString)
          (by simp [TrafficCmd.pieces]) (by simp [hflags]) fun v hv => ?_
        split at hv
        · cases hv
        · exact hmap hu16 cmd.dport v hv
      · exact OptionDecl.accepts_value (o := cmd.dports.map TrafficCmd.joined)
          (by simp [TrafficCmd.pieces]) (by simp [hflags]) fun _ _ => rfl
      · exact OptionDecl.accepts_value (o := cmd.sport.map toString) (by simp [TrafficCmd.pieces])
          (by simp [hflags]) (hmap hu16 cmd.sport)
      · exact OptionDecl.accepts_value (o := if cmd.count > 1 then some (toString cmd.count) else none)
          (by simp [TrafficCmd.pieces]) (by simp [hflags]) (hite (hu32 cmd.count) _)
      · exact OptionDecl.accepts_value
          (o := if cmd.intervalMs > 0 then some (toString cmd.intervalMs) else none)
          (by simp [TrafficCmd.pieces]) (by simp [hflags]) (hite (hu64 cmd.intervalMs) _)
      · refine OptionDecl.accepts_value (o := some (toString cmd.timeoutMs))
          (by simp [TrafficCmd.pieces]) (by simp [hflags]) ?_
        rintro v ⟨⟩
        exact hu64 cmd.timeoutMs
      · refine OptionDecl.accepts_flag (by simp [TrafficCmd.pieces]) ?_
        rw [hflags]
        simp
        split <;> omega
      · refine OptionDecl.accepts_flag (by simp [TrafficCmd.pieces]) ?_
        rw [hflags]
        simp
        split <;> omega
      · exact OptionDecl.accepts_value
          (o := if cmd.icmpTimestamp = true then some "timestamp" else none)
          (by simp [TrafficCmd.pieces]) (by simp [hflags]) (hite rfl _)
      · exact OptionDecl.accepts_value (o := uid.map toString) (by simp [TrafficCmd.pieces])
          (by simp [hflags]) (hmap hu32 uid)
    · rw [hpos]
      rfl
    · rw [hpos, hproto]
      cases p <;> decide
  rw [hargv, agentCommand_parse "traffic" rfl (by decide), hparse, Option.bind_some]
  change (TrafficArgs.ofPieces IpAddr.parse (cmd.pieces uid)).map AgentCommand.traffic = _
  rw [hpieces]
  rfl

/-! ## The workers of a session -/

/-- The listeners of the catalog are of the transports the worker knows. -/
theorem listen_protos :
    ∀ c ∈ allCases, ∀ spec ∈ c.listen, (ListenProto.parse spec.proto).isSome = true := by
  decide

theorem ListenProto.lowercase_of_parse {s : String} {p : ListenProto}
    (h : ListenProto.parse s = some p) : s = p.lowercase := by
  unfold ListenProto.parse at h
  split at h
  · cases h
    rfl
  · cases h
    rfl
  · cases h

/-- **What the workers are told.** For every configuration, a request is read as its traffic, the
listeners of every case and of the flood as listeners on their ports, and the flood as connections
held toward the peer. The ARP case has its replies sent on the peer's interface, unless the name of
the interface looks like an option, which is a usage error. -/
theorem worker_command_lines (cfg : RunConfig) :
    (∀ (cmd : TrafficCmd) (uid : Option UInt32) (p : Proto), cmd.proto = p.lowercase →
      AgentCommand.parse (agentArgs (cmd.argv uid)) = some (.traffic (cmd.args uid p))) ∧
    (∀ c ∈ allCases, ∀ spec ∈ c.listen, ∃ p : ListenProto, spec.proto = p.lowercase ∧
      AgentCommand.parse (agentArgs (startListenerArgs spec.proto spec.port listenSecs)) =
        some (.listen ⟨p, spec.port, listenSecs, false⟩)) ∧
    AgentCommand.parse (agentArgs floodListenArgs) =
      some (.listen ⟨.tcp, floodPort, holdSecs + 6, true⟩) ∧
    AgentCommand.parse (agentArgs (connFloodArgs cfg)) =
      some (.connFlood ⟨cfg.peerIp, floodPort, connFloodCount, holdSecs, 2000⟩) ∧
    AgentCommand.parse (agentArgs (arpSpoofArgs cfg)) =
      if looksLikeOption cfg.peerIface then none
      else some (.arpSpoof ⟨cfg.peerIface, ⟨10, 123, 0, 250⟩, 6⟩) := by
  refine ⟨fun cmd uid p hproto => parse_traffic cmd uid hproto, ?_, ?_, ?_, ?_⟩
  · intro c hc spec hspec
    obtain ⟨p, hp⟩ := Option.isSome_iff_exists.mp (listen_protos c hc spec hspec)
    have hproto := ListenProto.lowercase_of_parse hp
    refine ⟨p, hproto, ?_⟩
    rw [hproto]
    exact parse_listen p spec.port listenSecs false
  · exact parse_listen .tcp floodPort (holdSecs + 6) true
  · exact parse_connFlood cfg.peerIp floodPort connFloodCount holdSecs
  · exact parse_arpSpoof cfg.peerIface ⟨10, 123, 0, 250⟩ 6

end FwVerify
