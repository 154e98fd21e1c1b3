import FwVerify.Model.Endpoints
import FwVerify.Peer.Sides

/-!
# Detecting an address

An address that is not given is read from what `ip` shows of its interface, run on the side it is
of. The word behind the first `inet` has to be an IPv4 address, with or without a prefix length, and
is then the address.

## Main definitions

* `ShowsInet` — an output shows an address
* `AddressOf` — the address of a side

## Main results

* `parseInet_eq_ok` — what is read from an output
* `showsInet_line` — an output that names an address behind its first `inet`
* `resolve_spec` — the configuration of a run
-/

set_option autoImplicit false

namespace FwVerify

open Fallible Text

/-! ## Printed addresses -/

theorem Ipv4Addr.toString_of_parseOctet {s : String} {n : UInt8} (h : parseOctet s = some n) :
    s = toString n := by
  unfold parseOctet at h
  split at h
  · cases h
  · next digits hne =>
    split at h
    · obtain ⟨value, hvalue, rfl⟩ := Option.map_eq_some_iff.mp h
      obtain ⟨hparse, hlt⟩ := Option.filter_eq_some_iff.mp hvalue
      have hlt : value < 256 := of_decide_eq_true hlt
      have hvalue : (UInt8.ofNat value).toNat = value := by
        rw [UInt8.toNat_ofNat']
        omega
      apply String.toList_inj.mp
      change s.toList = (UInt8.ofNat value).toNat.repr.toList
      rw [hvalue, Nat.toList_repr]
      -- a leading zero stands alone
      by_cases hhead : s.toList.head? = some '0'
      · obtain ⟨later, hlater⟩ : ∃ later, s.toList = '0' :: later :=
          List.head?_eq_some_iff.mp hhead
        cases later with
        | nil =>
          rw [hlater] at hparse ⊢
          cases hparse
          rfl
        | cons second later => exact absurd hlater (hne second later)
      · exact (toDigits_of_parseDigits hparse hhead).symm
    · cases h

/-- What reads as an address is what the address is printed as. -/
theorem Ipv4Addr.display_of_parse {s : String} {ip : Ipv4Addr} (h : parse s = some ip) :
    s = ip.display := by
  unfold parse at h
  split at h
  · next a b c d hsplit =>
    obtain ⟨a', ha, h⟩ := Option.bind_eq_some_iff.mp h
    obtain ⟨b', hb, h⟩ := Option.bind_eq_some_iff.mp h
    obtain ⟨c', hc, h⟩ := Option.bind_eq_some_iff.mp h
    obtain ⟨d', hd, h⟩ := Option.bind_eq_some_iff.mp h
    cases h
    rw [display, ← toString_of_parseOctet ha, ← toString_of_parseOctet hb,
      ← toString_of_parseOctet hc, ← toString_of_parseOctet hd, ← hsplit]
    apply String.toList_inj.mp
    have hchars : ∀ chars : List Char, (String.toList ∘ String.ofList) chars = chars :=
      fun chars => String.toList_ofList
    rw [String.toList_intercalate, splitAt, List.map_map, List.map_congr_left fun x _ => hchars x,
      List.map_id']
    exact (List.intercalate_splitOn '.').symm
  · cases h

/-! ## Outputs -/

/-- The word behind the first `inet` of an output is an address, up to its slash. -/
def ShowsInet (out : String) (ip : Ipv4Addr) : Prop :=
  ∃ before cidr after, words out = before ++ "inet" :: cidr :: after ∧ "inet" ∉ before ∧
    (splitAt '/' cidr).head? = some ip.display

/-- What stands behind the first item that is no `inet`. -/
theorem getElem?_dropWhile_eq_some {items : List String} {item : String} :
    (items.dropWhile (· != "inet"))[1]? = some item ↔
      ∃ before after, items = before ++ "inet" :: item :: after ∧ "inet" ∉ before := by
  induction items with
  | nil => simp
  | cons first later ih =>
    by_cases hfirst : first = "inet"
    · subst hfirst
      rw [List.dropWhile_cons_of_neg (by simp)]
      constructor
      · intro hitem
        obtain ⟨after, rfl⟩ : ∃ after, later = item :: after := by
          cases later with
          | nil => cases hitem
          | cons second after =>
            cases hitem
            exact ⟨after, rfl⟩
        exact ⟨[], after, rfl, List.not_mem_nil⟩
      · rintro ⟨before, after, hitems, hbefore⟩
        cases before with
        | nil =>
          cases hitems
          rfl
        | cons first before =>
          obtain ⟨rfl, -⟩ := List.cons.inj hitems
          exact absurd List.mem_cons_self hbefore
    · rw [List.dropWhile_cons_of_pos (by simpa using hfirst), ih]
      constructor
      · rintro ⟨before, after, rfl, hbefore⟩
        exact ⟨first :: before, after, rfl, by simp [hbefore, Ne.symm hfirst]⟩
      · rintro ⟨before, after, hitems, hbefore⟩
        cases before with
        | nil =>
          obtain ⟨rfl, -⟩ := List.cons.inj hitems
          exact absurd rfl hfirst
        | cons first' before =>
          obtain ⟨rfl, rfl⟩ := List.cons.inj hitems
          exact ⟨before, after, rfl, fun h => hbefore (List.mem_cons_of_mem _ h)⟩

/-- What is read from an output is the address it shows. -/
theorem parseInet_eq_ok {out text : String} :
    parseInet out = .ok text ↔ ∃ ip, ShowsInet out ip ∧ text = ip.display := by
  constructor
  · intro h
    rw [parseInet] at h
    split at h
    · next addr hfound =>
      cases h
      obtain ⟨cidr, hcidr, hfound⟩ := Option.bind_eq_some_iff.mp hfound
      obtain ⟨addr, haddr, hfound⟩ := Option.bind_eq_some_iff.mp hfound
      split at hfound
      · next hip =>
        cases hfound
        obtain ⟨ip, hip⟩ := Option.isSome_iff_exists.mp hip
        obtain ⟨before, after, hwords, hbefore⟩ := getElem?_dropWhile_eq_some.mp hcidr
        have htext := Ipv4Addr.display_of_parse hip
        exact ⟨ip, ⟨before, cidr, after, hwords, hbefore, by rw [haddr, htext]⟩, htext⟩
      · cases hfound
    · cases h
  · rintro ⟨ip, ⟨before, cidr, after, hwords, hbefore, hhead⟩, rfl⟩
    have hcidr := getElem?_dropWhile_eq_some.mpr ⟨before, after, hwords, hbefore⟩
    simp [parseInet, hcidr, hhead, ip.parse_display]

theorem words_append {front back : String} {c : Char} (hc : isWhite c = true) :
    words (front ++ String.singleton c ++ back) = words front ++ words back := by
  rw [words, String.toList_append, String.toList_append, String.toList_singleton,
    List.append_assoc, List.singleton_append, List.splitOnP_append_cons _ _ hc, List.filter_append,
    List.map_append]
  rfl

/-- The words of a list of characters. -/
theorem words_ofList (chars : List Char) :
    words (String.ofList chars) =
      ((chars.splitOnP isWhite).filter fun word => !word.isEmpty).map String.ofList := by
  rw [words, String.toList_ofList]

/-- White space around a text adds no words. -/
theorem words_trim (s : String) : words (trim s) = words s := by
  have hfront (chars : List Char) :
      words (String.ofList (chars.dropWhile isWhite)) = words (String.ofList chars) := by
    induction chars with
    | nil => rfl
    | cons c later ih =>
      by_cases hc : isWhite c = true
      · rw [List.dropWhile_cons_of_pos hc, ih, words_ofList, words_ofList,
          List.splitOnP_cons_eq_if_modifyHead, if_pos hc]
        rfl
      · rw [List.dropWhile_cons_of_neg hc]
  have hback (chars : List Char) :
      words (String.ofList (chars.rdropWhile isWhite)) = words (String.ofList chars) := by
    induction chars using List.reverseRecOn with
    | nil => rfl
    | append_singleton front c ih =>
      by_cases hc : isWhite c = true
      · rw [List.rdropWhile_concat_pos _ _ _ hc, ih, words_ofList, words_ofList,
          List.splitOnP_append_cons _ _ hc, List.filter_append, List.splitOnP_nil]
        simp
      · rw [List.rdropWhile_concat_neg _ _ _ hc]
  rw [trim, hback, hfront, String.ofList_toList]

/-- A word of no white space is a text of one word. -/
theorem words_eq_singleton {s : String} (hne : s ≠ "") (h : ∀ c ∈ s.toList, isWhite c = false) :
    words s = [s] := by
  have hne' : s.toList ≠ [] := fun hnil => hne (String.toList_inj.mp (by rw [hnil]; rfl))
  rw [words, List.splitOnP_eq_singleton h]
  simp [hne']

theorem not_isWhite_display (ip : Ipv4Addr) : ∀ c ∈ ip.display.toList, isWhite c = false := by
  intro c hc
  by_contra hwhite
  refine ip.not_mem_display ?_ ?_ hc
  · by_contra hdigit
    exact hwhite (isWhite_of_isDigit (Bool.eq_true_of_not_eq_false hdigit))
  · rintro rfl
    exact hwhite rfl

/-- An address with a prefix length, as `ip` shows it. -/
def Ipv4Addr.cidr (ip : Ipv4Addr) (prefixLen : UInt8) : String :=
  "/".intercalate [ip.display, toString prefixLen]

/-- An output that names an address and a prefix length behind its first `inet` shows the
address. -/
theorem showsInet_line {front : String} (back : String) (ip : Ipv4Addr) (prefixLen : UInt8)
    (hfront : "inet" ∉ words front) :
    ShowsInet (front ++ " inet " ++ ip.cidr prefixLen ++ " " ++ back) ip := by
  have hdigits : ∀ c ∈ (toString prefixLen).toList, isWhite c = false := fun c hc =>
    isWhite_of_isDigit (isDigit_of_mem_repr (n := prefixLen.toNat) hc)
  have hcidr : ∀ c ∈ (ip.cidr prefixLen).toList, isWhite c = false := by
    intro c hc
    change c ∈ (ip.display ++ "/" ++ toString prefixLen).toList at hc
    rw [String.toList_append, String.toList_append, List.mem_append, List.mem_append] at hc
    rcases hc with (hc | hc) | hc
    · exact not_isWhite_display ip c hc
    · rw [List.mem_singleton.mp hc]
      rfl
    · exact hdigits c hc
  have hslash : splitAt '/' (ip.cidr prefixLen) = [ip.display, toString prefixLen] := by
    refine splitAt_intercalate '/' _ (fun item hitem => ?_) (by simp)
    simp only [List.mem_cons, List.not_mem_nil, or_false] at hitem
    rcases hitem with rfl | rfl
    · exact ip.not_mem_display (by decide) (by decide)
    · exact not_mem_repr (by decide)
  have hne : ip.cidr prefixLen ≠ "" := by
    intro hempty
    rw [hempty] at hslash
    have hlength : 1 = 2 := congrArg List.length hslash
    omega
  have htext : front ++ " inet " ++ ip.cidr prefixLen ++ " " ++ back =
      front ++ String.singleton ' ' ++
        ("inet" ++ String.singleton ' ' ++
          (ip.cidr prefixLen ++ String.singleton ' ' ++ back)) := by
    simp only [String.append_assoc]
    rfl
  have hinet : words "inet" = ["inet"] := by
    have hall : "inet".toList.all (!isWhite ·) = true := rfl
    refine words_eq_singleton (by decide) fun c hc => ?_
    simpa using List.all_eq_true.mp hall c hc
  refine ⟨words front, ip.cidr prefixLen, words back, ?_, hfront, by rw [hslash]; rfl⟩
  rw [htext, words_append rfl, words_append rfl, words_append rfl,
    words_eq_singleton hne hcidr, hinet]
  rfl

/-! ## The configuration of a run -/

/-- The address of a side: the given one, or else the one `ip` shows there. -/
def AddressOf (host : Host) (explicit : Option IpAddr) (endpoint : Endpoint) (iface : String)
    (ip : IpAddr) : Prop :=
  explicit = some ip ∨ explicit = none ∧ ∃ out shown,
    host.Ends ["sh", "-c", showAddr iface] out endpoint ∧ ShowsInet (trim out.stdout) shown ∧
      ip = .v4 shown

/-- The attempts that detect an address: none when it is given. -/
def Detects (explicit : Option IpAddr) (endpoint : Endpoint) (iface : String)
    (attempts : List SpawnAttempt) : Prop :=
  (explicit.isSome = true → attempts = []) ∧
    ∃ started, RunsOnly endpoint ["sh", "-c", showAddr iface] started attempts

section Resolve

variable (host : Host) (before : List SpawnAttempt)

theorem runsOnly_nil (endpoint : Endpoint) (program : List String) :
    RunsOnly endpoint program false [] :=
  ⟨fun _ h => absurd h List.not_mem_nil, Nat.zero_le 2, rfl⟩

/-- How an address is resolved. What is detected always reads as an address. -/
theorem resolveIp_spec (explicit : Option IpAddr) (endpoint : Endpoint) (iface role : String) :
    ∃ (result : Except String IpAddr) (attempts : List SpawnAttempt),
      exec (resolveIp host explicit endpoint iface role) before = (result, before ++ attempts) ∧
      Detects explicit endpoint iface attempts ∧
      ∀ ip, result = .ok ip ↔ AddressOf host explicit endpoint iface ip := by
  cases explicit with
  | some ip =>
    refine ⟨.ok ip, [], ?_, ⟨fun _ => rfl, false, runsOnly_nil _ _⟩, fun ip' => ?_⟩
    · rw [List.append_nil]
      rfl
    · simp [AddressOf]
  | none =>
    obtain ⟨result, attempts, started, hexec, honly, hends⟩ :=
      runProgram_spec host before ["sh", "-c", showAddr iface] endpoint
    have hdetects : Detects none endpoint iface attempts :=
      ⟨fun h => (by cases h), started, honly⟩
    have hshell : exec (endpoint.shellFull host (showAddr iface)) before =
        (result, before ++ attempts) := hexec
    rw [resolveIp, exec_bind, Endpoint.detectIpv4, exec_bind, Endpoint.shell, exec_bind, hshell]
    cases result with
    | error error =>
      refine ⟨.error error, attempts, rfl, hdetects, fun ip => iff_of_false (fun h => ?_) ?_⟩
      · cases h
      · rintro (h | ⟨-, out, shown, hout, -⟩)
        · cases h
        · cases (hends out).mpr hout
    | ok out =>
      -- the output decides
      have hout : host.Ends ["sh", "-c", showAddr iface] out endpoint := (hends out).mp rfl
      have honly (out' : ProgramOutput)
          (hout' : host.Ends ["sh", "-c", showAddr iface] out' endpoint) : out' = out :=
        (Except.ok.inj ((hends out').mpr hout')).symm
      dsimp only
      rw [exec_pure]
      dsimp only
      rw [exec_check]
      cases hparse : parseInet (trim out.stdout) with
      | error error =>
        refine ⟨_, attempts, rfl, hdetects, fun ip => iff_of_false (fun h => ?_) ?_⟩
        · cases h
        · rintro (h | ⟨-, out', shown, hout', hshown, -⟩)
          · cases h
          · rw [honly out' hout'] at hshown
            rw [parseInet_eq_ok.mpr ⟨shown, hshown, rfl⟩] at hparse
            cases hparse
      | ok text =>
        obtain ⟨shown, hshown, rfl⟩ := parseInet_eq_ok.mp hparse
        have hread : IpAddr.parse shown.display = some (.v4 shown) := (IpAddr.v4 shown).parse_display
        rw [context_ok]
        dsimp only
        rw [hread]
        refine ⟨.ok (.v4 shown), attempts, rfl, hdetects, fun ip => ?_⟩
        constructor
        · rintro ⟨⟩
          exact .inr ⟨rfl, out, shown, hout, hshown, rfl⟩
        · rintro (h | ⟨-, out', shown', hout', hshown', rfl⟩)
          · cases h
          · rw [honly out' hout'] at hshown'
            have htext := parseInet_eq_ok.mpr ⟨shown', hshown', rfl⟩
            rw [hparse] at htext
            have hdisplay : shown.display = shown'.display := Except.ok.inj htext
            have hsame := congrArg Ipv4Addr.parse hdisplay
            rw [shown.parse_display, shown'.parse_display] at hsame
            rw [Option.some.inj hsame]

/-- The configuration of a run: each address is resolved on its own side, the TARGET's first, and
nothing is started for an address that is given. -/
theorem resolve_spec (global : GlobalArgs) :
    ∃ (result : Except String RunConfig) (onTarget onPeer : List SpawnAttempt),
      exec (RunConfig.resolve host global) before = (result, before ++ (onTarget ++ onPeer)) ∧
      Detects global.targetIp .local global.targetIface onTarget ∧
      Detects global.peerIp (.netns global.peerNetns) global.peerIface onPeer ∧
      ∀ cfg, result = .ok cfg ↔ ∃ targetIp peerIp,
        AddressOf host global.targetIp .local global.targetIface targetIp ∧
        AddressOf host global.peerIp (.netns global.peerNetns) global.peerIface peerIp ∧
        cfg = global.runConfig targetIp peerIp := by
  obtain ⟨target, onTarget, htarget, hdetects, htargetIp⟩ :=
    resolveIp_spec host before global.targetIp .local global.targetIface "TARGET"
  rw [RunConfig.resolve, exec_bind, htarget]
  cases target with
  | error error =>
    refine ⟨.error error, onTarget, [], by rw [List.append_nil], hdetects,
      ⟨fun _ => rfl, false, runsOnly_nil _ _⟩, fun cfg => iff_of_false (fun h => ?_) ?_⟩
    · cases h
    · rintro ⟨targetIp, -, h, -⟩
      cases (htargetIp targetIp).mpr h
  | ok targetIp =>
    obtain ⟨peer, onPeer, hpeer, hdetects', hpeerIp⟩ := resolveIp_spec host (before ++ onTarget)
      global.peerIp (.netns global.peerNetns) global.peerIface "PEER"
    dsimp only
    rw [exec_bind, hpeer, List.append_assoc]
    have honly (ip : IpAddr) (h : AddressOf host global.targetIp .local global.targetIface ip) :
        ip = targetIp :=
      (Except.ok.inj ((htargetIp ip).mpr h)).symm
    cases peer with
    | error error =>
      refine ⟨.error error, onTarget, onPeer, rfl, hdetects, hdetects',
        fun cfg => iff_of_false (fun h => ?_) ?_⟩
      · cases h
      · rintro ⟨-, peerIp, -, h, -⟩
        cases (hpeerIp peerIp).mpr h
    | ok peerIp =>
      refine ⟨.ok (global.runConfig targetIp peerIp), onTarget, onPeer, rfl, hdetects, hdetects',
        fun cfg => ?_⟩
      constructor
      · rintro ⟨⟩
        exact ⟨targetIp, peerIp, (htargetIp targetIp).mp rfl, (hpeerIp peerIp).mp rfl, rfl⟩
      · rintro ⟨targetIp', peerIp', htarget', hpeer', rfl⟩
        rw [honly targetIp' htarget', Except.ok.inj ((hpeerIp peerIp').mpr hpeer')]

end Resolve

end FwVerify
