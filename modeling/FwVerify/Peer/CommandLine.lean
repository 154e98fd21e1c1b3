import FwVerify.Lib.Traversals
import FwVerify.Model.Peer

/-!
# The command line between orchestrator and worker

The orchestrator renders a traffic request as tokens and leaves out what the worker's
defaults supply; the worker reads the tokens and resolves the port list. Both sides are
compared through the plan a run carries out.

## Main definitions

* `TrafficPlan` — what a run does, after defaults and port resolution
* `TrafficArgs.plan`, `TrafficCmd.plan` — the plan of parsed arguments, and of a request

## Main results

* `parse_argv` — the worker's arguments for a rendered request
* `plan_parse_argv` — they carry out the plan of the request
-/

set_option autoImplicit false

namespace FwVerify

open Text Options

/-- What a traffic run does. -/
structure TrafficPlan where
  proto : Proto
  toAddr : IpAddr
  ports : List UInt16
  sport : Option UInt16
  count : UInt32
  intervalMs : UInt64
  timeoutMs : UInt64
  awaitReply : Bool
  finOnly : Bool
  icmpType : IcmpKind
  uid : Option UInt32
  deriving DecidableEq

/-- The plan a run of the worker carries out. -/
def TrafficArgs.plan (args : TrafficArgs) : Except String TrafficPlan := do
  let ports ← args.portList
  return {
    proto := args.proto, toAddr := args.toAddr, ports, sport := args.sport
    count := max args.count 1
    intervalMs := args.intervalMs, timeoutMs := args.timeoutMs
    awaitReply := args.awaitReply, finOnly := args.finOnly
    icmpType := args.icmpType, uid := args.uid }

/-- The ports a request names: the list wins over the single port. -/
def TrafficCmd.portList (cmd : TrafficCmd) (proto : Proto) : Except String (List UInt16) :=
  match cmd.dports, cmd.dport with
  | some ports, _ => .ok ports
  | none, some port => .ok [port]
  | none, none =>
    if proto = .icmp then .ok [0] else .error "--dport or --dports is required for tcp/udp"

/-- The plan a request asks for. -/
def TrafficCmd.plan (cmd : TrafficCmd) (proto : Proto) (uid : Option UInt32) :
    Except String TrafficPlan := do
  let ports ← cmd.portList proto
  return {
    proto, toAddr := cmd.toAddr, ports, sport := cmd.sport
    count := max cmd.count 1
    intervalMs := cmd.intervalMs, timeoutMs := cmd.timeoutMs
    awaitReply := cmd.awaitReply, finOnly := cmd.finOnly
    icmpType := if cmd.icmpTimestamp then .timestamp else .echo
    uid }

namespace TrafficCmd

/-- The comma-joined port list. -/
def joined (ports : List UInt16) : String := ",".intercalate (ports.map toString)

/-- The pieces of a request's command line. -/
def pieces (cmd : TrafficCmd) (uid : Option UInt32) : List Piece :=
  [.positional cmd.proto] ++ optPiece "to" (some cmd.toAddr.display) ++
  (optPiece "dports" (cmd.dports.map joined) ++
    optPiece "dport" (if cmd.dports.isSome then none else cmd.dport.map toString)) ++
  optPiece "sport" (cmd.sport.map toString) ++
  optPiece "count" (if cmd.count > 1 then some (toString cmd.count) else none) ++
  optPiece "interval-ms" (if cmd.intervalMs > 0 then some (toString cmd.intervalMs) else none) ++
  optPiece "timeout-ms" (some (toString cmd.timeoutMs)) ++
  flagPiece "await-reply" cmd.awaitReply ++ flagPiece "fin-only" cmd.finOnly ++
  optPiece "icmp-type" (if cmd.icmpTimestamp then some "timestamp" else none) ++
  optPiece "uid" (uid.map toString)

/-- The command line is the rendering of the request's pieces. -/
theorem argv_eq (cmd : TrafficCmd) (uid : Option UInt32) :
    cmd.argv uid = "traffic" :: (cmd.pieces uid).flatMap Piece.render := by
  have hports : cmd.dports.elim (cmd.dport.elim [] fun port => ["--dport", toString port])
        (fun ports => ["--dports", ",".intercalate (ports.map toString)]) =
      (optPiece "dports" (cmd.dports.map joined)).flatMap Piece.render ++
        (optPiece "dport" (if cmd.dports.isSome then none
          else cmd.dport.map toString)).flatMap Piece.render := by
    cases cmd.dports <;> cases cmd.dport <;> rfl
  have hsport : cmd.sport.elim [] (fun sport => ["--sport", toString sport]) =
      (optPiece "sport" (cmd.sport.map toString)).flatMap Piece.render := by
    cases cmd.sport <;> rfl
  have huid : uid.elim [] (fun uid => ["--uid", toString uid]) =
      (optPiece "uid" (uid.map toString)).flatMap Piece.render := by
    cases uid <;> rfl
  -- the tokens an option is rendered as, when it is there and when it is not
  have hopt (c : Prop) [Decidable c] (name value : String) :
      (if c then ["--" ++ name, value] else []) =
        (optPiece name (if c then some value else none)).flatMap Piece.render := by
    split <;> rfl
  have hflag (set : Bool) (name : String) :
      (if set = true then ["--" ++ name] else []) =
        (flagPiece name set).flatMap Piece.render := by
    cases set <;> rfl
  have hcount := hopt (cmd.count > 1) "count" (toString cmd.count)
  have hinterval := hopt (cmd.intervalMs > 0) "interval-ms" (toString cmd.intervalMs)
  have hicmp := hopt (cmd.icmpTimestamp = true) "icmp-type" "timestamp"
  have hawait := hflag cmd.awaitReply "await-reply"
  have hfin := hflag cmd.finOnly "fin-only"
  simp only [argv, pieces, List.flatMap_append]
  rw [← hports, ← hsport, ← huid, ← hcount, ← hinterval, ← hicmp, ← hawait, ← hfin]
  -- each option is there or not on both sides
  cases cmd.dports <;> cases cmd.dport <;> cases cmd.sport <;> cases uid <;> rfl

theorem wellNamed_trafficDecls : WellNamed trafficDecls := by
  unfold WellNamed
  decide

/-- Every piece reads back: names are declared, and no value holds a hyphen. -/
theorem renderable_pieces (cmd : TrafficCmd) (uid : Option UInt32) {p : Proto}
    (hproto : cmd.proto = p.lowercase) :
    ∀ piece ∈ cmd.pieces uid, piece.Renderable trafficDecls := by
  have hnum (n : Nat) : '-' ∉ n.repr.toList := not_mem_repr (by decide)
  have hnums {α : Type} (o : Option α) (f : α → Nat) (value : String)
      (h : o.map (fun a => (f a).repr) = some value) : '-' ∉ value.toList := by
    obtain ⟨a, -, rfl⟩ := Option.map_eq_some_iff.mp h
    exact hnum _
  have hjoined (ports : List UInt16) : '-' ∉ (joined ports).toList := by
    refine not_mem_intercalate (by decide) fun item hitem => ?_
    obtain ⟨port, -, rfl⟩ := List.mem_map.mp hitem
    exact hnum _
  have hif (c : Prop) [Decidable c] (text value : String) (htext : '-' ∉ text.toList)
      (h : (if c then some text else none) = some value) : '-' ∉ value.toList := by
    split at h
    · cases h
      exact htext
    · cases h
  intro piece hpiece
  simp only [pieces, List.mem_append, List.mem_singleton] at hpiece
  rcases hpiece with
    ((((((((((rfl | h) | h | h) | h) | h) | h) | h) | h) | h) | h) | h)
  · -- the protocol name is the only positional value
    rw [Piece.Renderable, hproto]
    cases p <;> decide
  · refine renderable_optPiece wellNamed_trafficDecls rfl ?_ piece h
    rintro value ⟨⟩
    exact cmd.toAddr.hyphen_not_mem_display
  · refine renderable_optPiece wellNamed_trafficDecls rfl ?_ piece h
    intro value hvalue
    obtain ⟨ports, -, rfl⟩ := Option.map_eq_some_iff.mp hvalue
    exact hjoined ports
  · refine renderable_optPiece wellNamed_trafficDecls rfl ?_ piece h
    intro value hvalue
    split at hvalue
    · cases hvalue
    · exact hnums cmd.dport UInt16.toNat value hvalue
  · exact renderable_optPiece wellNamed_trafficDecls rfl
      (hnums cmd.sport UInt16.toNat) piece h
  · exact renderable_optPiece wellNamed_trafficDecls rfl
      (fun value => hif _ _ value (hnum _)) piece h
  · exact renderable_optPiece wellNamed_trafficDecls rfl
      (fun value => hif _ _ value (hnum _)) piece h
  · refine renderable_optPiece wellNamed_trafficDecls rfl ?_ piece h
    rintro value ⟨⟩
    exact hnum _
  · exact renderable_flagPiece wellNamed_trafficDecls rfl piece h
  · exact renderable_flagPiece wellNamed_trafficDecls rfl piece h
  · exact renderable_optPiece wellNamed_trafficDecls rfl
      (fun value => hif _ _ value (by decide)) piece h
  · exact renderable_optPiece wellNamed_trafficDecls rfl
      (hnums uid UInt32.toNat) piece h

/-- The worker's scanner returns the request's pieces. -/
theorem scan_argv (cmd : TrafficCmd) (uid : Option UInt32) {p : Proto}
    (hproto : cmd.proto = p.lowercase) :
    cmd.argv uid = "traffic" :: (cmd.pieces uid).flatMap Piece.render ∧
      scan trafficDecls ((cmd.pieces uid).flatMap Piece.render) = some (cmd.pieces uid) :=
  ⟨cmd.argv_eq uid, scan_render (cmd.renderable_pieces uid hproto)⟩

end TrafficCmd

/-! ## Reading the values back -/

theorem parseU16_toString (n : UInt16) : parseU16 (toString n) = some n := by
  have h : parseUnsigned (2 ^ 16) n.toNat.repr = some n.toNat := parseUnsigned_repr n.toNat_lt
  change (parseUnsigned (2 ^ 16) n.toNat.repr).map UInt16.ofNat = some n
  rw [h, Option.map_some, UInt16.ofNat_toNat]

theorem parseU32_toString (n : UInt32) : parseU32 (toString n) = some n := by
  have h : parseUnsigned (2 ^ 32) n.toNat.repr = some n.toNat := parseUnsigned_repr n.toNat_lt
  change (parseUnsigned (2 ^ 32) n.toNat.repr).map UInt32.ofNat = some n
  rw [h, Option.map_some, UInt32.ofNat_toNat]

theorem parseU64_toString (n : UInt64) : parseU64 (toString n) = some n := by
  have h : parseUnsigned (2 ^ 64) n.toNat.repr = some n.toNat := parseUnsigned_repr n.toNat_lt
  change (parseUnsigned (2 ^ 64) n.toNat.repr).map UInt64.ofNat = some n
  rw [h, Option.map_some, UInt64.ofNat_toNat]

/-- A number rendered when given is read back as given. -/
theorem readOpt_map {α : Type} {read : String → Option α} {print : α → String}
    (hread : ∀ a, read (print a) = some a) (o : Option α) :
    readOpt read (o.map print) = some o := by
  cases o with
  | none => rfl
  | some a => simp [readOpt, hread]

/-- A number rendered under a condition is read back under that condition. -/
theorem readOpt_ite {α : Type} {read : String → Option α} {print : α → String}
    (hread : ∀ a, read (print a) = some a) (c : Prop) [Decidable c] (a : α) :
    readOpt read (if c then some (print a) else none) =
      some (if c then some a else none) := by
  by_cases h : c <;> simp [readOpt, hread, h]

namespace TrafficCmd

/-- The worker's arguments for a request. -/
def args (cmd : TrafficCmd) (uid : Option UInt32) (p : Proto) : TrafficArgs where
  proto := p
  toAddr := cmd.toAddr
  dport := if cmd.dports.isSome then none else cmd.dport
  dports := cmd.dports.map joined
  sport := cmd.sport
  count := if cmd.count > 1 then cmd.count else 1
  intervalMs := if cmd.intervalMs > 0 then cmd.intervalMs else 0
  timeoutMs := cmd.timeoutMs
  awaitReply := cmd.awaitReply
  finOnly := cmd.finOnly
  icmpType := if cmd.icmpTimestamp then .timestamp else .echo
  uid := uid

variable (cmd : TrafficCmd) (uid : Option UInt32)

section Fields

/-- What each option holds in the request's pieces. -/
theorem optValue_pieces :
    optValue "to" (cmd.pieces uid) = some (some cmd.toAddr.display) ∧
    optValue "dport" (cmd.pieces uid) =
      some (if cmd.dports.isSome then none else cmd.dport.map toString) ∧
    optValue "dports" (cmd.pieces uid) = some (cmd.dports.map joined) ∧
    optValue "sport" (cmd.pieces uid) = some (cmd.sport.map toString) ∧
    optValue "count" (cmd.pieces uid) =
      some (if cmd.count > 1 then some (toString cmd.count) else none) ∧
    optValue "interval-ms" (cmd.pieces uid) =
      some (if cmd.intervalMs > 0 then some (toString cmd.intervalMs) else none) ∧
    optValue "timeout-ms" (cmd.pieces uid) = some (some (toString cmd.timeoutMs)) ∧
    optValue "icmp-type" (cmd.pieces uid) =
      some (if cmd.icmpTimestamp then some "timestamp" else none) ∧
    optValue "uid" (cmd.pieces uid) = some (uid.map toString) := by
  refine ⟨?_, ?_, ?_, ?_, ?_, ?_, ?_, ?_, ?_⟩ <;>
    exact optValue_of_values (by simp [pieces])

/-- Which flags the request's pieces set. -/
theorem flagSet_pieces :
    flagSet "await-reply" (cmd.pieces uid) = some cmd.awaitReply ∧
      flagSet "fin-only" (cmd.pieces uid) = some cmd.finOnly := by
  constructor <;> exact flagSet_of_count (by simp [pieces])

theorem positionals_pieces : positionals (cmd.pieces uid) = [cmd.proto] := by
  simp [pieces]

end Fields

end TrafficCmd

/-- What is read when every option can be: the declared defaults stand in for absent ones. -/
theorem ofPieces_eq {parseIp : String → Option IpAddr} {pieces : List Piece} {name : String}
    {proto : Proto} {addr : String} {toAddr : IpAddr}
    {dport dports sport count interval timeout icmp uid : Option String}
    {dport' sport' : Option UInt16} {count' : Option UInt32} {interval' timeout' : Option UInt64}
    {icmp' : Option IcmpKind} {uid' : Option UInt32} {awaitReply finOnly : Bool}
    (hname : positionals pieces = [name]) (hproto : Proto.parse name = some proto)
    (hto : optValue "to" pieces = some (some addr)) (hip : parseIp addr = some toAddr)
    (hdport : optValue "dport" pieces = some dport) (hdport' : readOpt parseU16 dport = some dport')
    (hdports : optValue "dports" pieces = some dports)
    (hsport : optValue "sport" pieces = some sport) (hsport' : readOpt parseU16 sport = some sport')
    (hcount : optValue "count" pieces = some count) (hcount' : readOpt parseU32 count = some count')
    (hinterval : optValue "interval-ms" pieces = some interval)
    (hinterval' : readOpt parseU64 interval = some interval')
    (htimeout : optValue "timeout-ms" pieces = some timeout)
    (htimeout' : readOpt parseU64 timeout = some timeout')
    (hawait : flagSet "await-reply" pieces = some awaitReply)
    (hfin : flagSet "fin-only" pieces = some finOnly)
    (hicmp : optValue "icmp-type" pieces = some icmp)
    (hicmp' : readOpt IcmpKind.parse icmp = some icmp')
    (huid : optValue "uid" pieces = some uid) (huid' : readOpt parseU32 uid = some uid') :
    TrafficArgs.ofPieces parseIp pieces = some {
      proto, toAddr, dport := dport', dports, sport := sport', count := count'.getD 1
      intervalMs := interval'.getD 0, timeoutMs := timeout'.getD 1000, awaitReply, finOnly
      icmpType := icmp'.getD .echo, uid := uid' } := by
  simp only [TrafficArgs.ofPieces, hname, hproto, hto, hip, hdport, hdport', hdports, hsport,
    hsport', hcount, hcount', hinterval, hinterval', htimeout, htimeout', hawait, hfin, hicmp,
    hicmp', huid, huid', Option.bind_eq_bind, Option.bind_some]
  rfl

/-- The worker's arguments for a rendered request. -/
theorem parse_argv (parseIp : String → Option IpAddr) (cmd : TrafficCmd) (uid : Option UInt32)
    {p : Proto} (hproto : cmd.proto = p.lowercase)
    (hip : parseIp cmd.toAddr.display = some cmd.toAddr) :
    TrafficArgs.parse parseIp (cmd.argv uid) = some (cmd.args uid p) := by
  obtain ⟨hargv, hscan⟩ := cmd.scan_argv uid hproto
  obtain ⟨hto, hdport, hdports, hsport, hcount, hinterval, htimeout, hicmp, huid⟩ :=
    cmd.optValue_pieces uid
  obtain ⟨hawait, hfin⟩ := cmd.flagSet_pieces uid
  have hname : Proto.parse cmd.proto = some p := by
    rw [hproto]
    cases p <;> rfl
  have hdport' : readOpt parseU16 (if cmd.dports.isSome then none else cmd.dport.map toString) =
      some (if cmd.dports.isSome then none else cmd.dport) := by
    cases cmd.dports with
    | none => exact readOpt_map parseU16_toString cmd.dport
    | some _ => rfl
  have hicmp' : readOpt IcmpKind.parse (if cmd.icmpTimestamp then some "timestamp" else none) =
      some (if cmd.icmpTimestamp then some .timestamp else none) := by
    cases cmd.icmpTimestamp <;> rfl
  have htimeout' : readOpt parseU64 (some (toString cmd.timeoutMs)) = some (some cmd.timeoutMs) :=
    readOpt_map parseU64_toString (some cmd.timeoutMs)
  have hread := ofPieces_eq (cmd.positionals_pieces uid) hname hto hip hdport hdport' hdports hsport
    (readOpt_map parseU16_toString cmd.sport) hcount (readOpt_ite parseU32_toString ..) hinterval
    (readOpt_ite parseU64_toString ..) htimeout htimeout' hawait hfin hicmp hicmp' huid
    (readOpt_map parseU32_toString uid)
  -- a default stands where nothing was rendered
  have hgetD {α : Type} (c : Prop) [Decidable c] (a b : α) :
      (if c then some a else none).getD b = if c then a else b := by
    split <;> rfl
  simp only [hgetD, Option.getD_some] at hread
  rw [hargv, TrafficArgs.parse, hscan, Option.bind_eq_bind, Option.bind_some, hread]
  rfl

/-! ## The plan -/

theorem trim_toString (n : UInt16) : trim (toString n) = toString n := trim_repr n.toNat

/-- Splitting a joined port list gives the ports in order, for any reader that undoes
printing a port. -/
theorem mapM_joined {read : String → Except String UInt16}
    (hread : ∀ n : UInt16, read (toString n) = .ok n) (ports : List UInt16) :
    ((splitAt ',' (TrafficCmd.joined ports)).filter fun item => trim item != "").mapM read =
      .ok ports := by
  cases hports : ports with
  -- the empty text has one empty item, which is dropped
  | nil => rfl
  | cons port later =>
    have hne (n : UInt16) : (trim (toString n) != "") = true := by
      have hdigits := parseU16_toString n
      have hempty : parseU16 "" = none := by decide
      rw [trim_toString, bne_iff_ne]
      intro h
      rw [h, hempty] at hdigits
      cases hdigits
    -- no printed port holds a comma, and none is white space only
    have hsplit : splitAt ',' (TrafficCmd.joined ports) = ports.map toString := by
      refine splitAt_intercalate ',' _ (fun item hitem => ?_) (by simp [hports])
      obtain ⟨n, -, rfl⟩ := List.mem_map.mp hitem
      exact not_mem_repr (by decide)
    have hfilter : (ports.map toString).filter (fun item => trim item != "") =
        ports.map toString := by
      refine List.filter_eq_self.mpr fun item hitem => ?_
      obtain ⟨n, -, rfl⟩ := List.mem_map.mp hitem
      exact hne n
    have hreadAll : ports.mapM (read ∘ toString) = .ok (ports.map id) :=
      Traversal.mapM_of_forall fun n _ => hread n
    rw [← hports, hsplit, hfilter, List.mapM_map, hreadAll, List.map_id]

theorem portList_args (cmd : TrafficCmd) (uid : Option UInt32) (p : Proto) :
    (cmd.args uid p).portList = cmd.portList p := by
  cases hdports : cmd.dports with
  | some ports =>
    simp only [TrafficArgs.portList, TrafficCmd.args, TrafficCmd.portList, hdports,
      Option.map_some]
    refine mapM_joined (fun n => ?_) ports
    rw [trim_toString, parseU16_toString]
  | none =>
    simp only [TrafficArgs.portList, TrafficCmd.args, TrafficCmd.portList, hdports,
      Option.map_none, Option.isSome_none, Bool.false_eq_true, ↓reduceIte]
    cases cmd.dport <;> rfl

/-- The elided count and interval are the worker's defaults. -/
theorem plan_args (cmd : TrafficCmd) (uid : Option UInt32) (p : Proto) :
    (cmd.args uid p).plan = cmd.plan p uid := by
  have hcount : max (if cmd.count > 1 then cmd.count else 1) 1 = max cmd.count 1 := by
    split_ifs with h
    · rfl
    · have hle : cmd.count ≤ 1 := UInt32.not_lt.mp h
      change (if (1 : UInt32) ≤ 1 then 1 else 1) = if cmd.count ≤ 1 then 1 else cmd.count
      simp [hle]
  have hinterval : (if cmd.intervalMs > 0 then cmd.intervalMs else 0) = cmd.intervalMs := by
    split_ifs with h
    · rfl
    · grind
  rw [TrafficArgs.plan, TrafficCmd.plan, portList_args]
  simp only [TrafficCmd.args, hcount, hinterval]

/-- **Round trip of the command line.** What the worker reads from a request's tokens carries
out the request's plan; a request that names no port is refused alike on both sides. -/
theorem plan_parse_argv (parseIp : String → Option IpAddr) (cmd : TrafficCmd)
    (uid : Option UInt32) (p : Proto) (hproto : cmd.proto = p.lowercase)
    (hip : parseIp cmd.toAddr.display = some cmd.toAddr) :
    (TrafficArgs.parse parseIp (cmd.argv uid)).map TrafficArgs.plan = some (cmd.plan p uid) := by
  rw [parse_argv parseIp cmd uid hproto hip, Option.map_some, plan_args]

/-- The round trip of a scan of two ports run under a uid. -/
theorem plan_parse_argv_scan :
    let cmd : TrafficCmd :=
      { proto := "tcp", toAddr := .v4 ⟨10, 9, 9, 2⟩, dport := none, dports := some [9001, 9002]
        sport := none, count := 1, timeoutMs := 600, intervalMs := 0
        awaitReply := false, finOnly := false, icmpTimestamp := false }
    let parseIp (s : String) : Option IpAddr := (Ipv4Addr.parse s).map .v4
    (TrafficArgs.parse parseIp (cmd.argv (some 2000))).map TrafficArgs.plan =
      some (cmd.plan .tcp (some 2000)) :=
  plan_parse_argv _ _ _ .tcp rfl (congrArg (Option.map IpAddr.v4) (Ipv4Addr.parse_display _))

end FwVerify
