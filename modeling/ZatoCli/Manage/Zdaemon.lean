import Mathlib.Data.Nat.Digits
import ZatoCli.Python.Format

namespace ZatoCli

/-- `fnmatch(name, head + '*' + tail)`. -/
def fnmatchStar (head tail name : Str) : Bool :=
  head.isPrefixOf name && tail.isSuffixOf name && head.length + tail.length ≤ name.length

def zdaemonDir (componentDir : Str) : Str :=
  pathJoinAll componentDir ["config".toList, "zdaemon".toList]

/-- `sorted(glob.iglob(os.path.join(self.component_dir, 'config', 'zdaemon', 'zdaemon*.conf')))`
when that directory holds the files `listing`; its path is taken literally, as glob does when it
has no magic characters. -/
def zdaemonConfFiles (componentDir : Str) (listing : List Str) : List Str :=
  ((listing.filter (fnmatchStar "zdaemon".toList ".conf".toList)).map
    (pathJoin (zdaemonDir componentDir))).insertionSort fun a b => strLe a b

/-- A path with none of the characters `*`, `?`, `[` that make `glob.has_magic` true; `glob` takes
such a directory literally, as `zdaemonConfFiles` does. -/
def GlobLiteral (path : Str) : Prop := '*' ∉ path ∧ '?' ∉ path ∧ '[' ∉ path

instance decidableGlobLiteral (path : Str) : Decidable (GlobLiteral path) :=
  inferInstanceAs (Decidable ('*' ∉ path ∧ '?' ∉ path ∧ '[' ∉ path))

structure ProcResult where
  returncode : Option Int
  stdout : Str
  stderr : Str

/-- `ManageCommand._execute_zdaemon_command`; `popen` gives the outcome of each command list. -/
def executeZdaemonCommand (popen : List Str → ProcResult) (commandList : List Str) :
    Except PyError (Option Str) :=
  let p := popen commandList
  match p.returncode with
  | none => .error (.noReturnCode commandList)
  | some rc =>
    if rc ≠ 0 then .error (.commandFailed commandList rc p.stdout p.stderr)
    else if startswith p.stdout "program running".toList then do
      let data ← pyIndex (p.stdout.splitOn ';') 1
      let pid ← pyIndex ((strip whitespace data).splitOn '=') 1
      pure (some (strip whitespace pid))
    else .ok none

theorem splitOn_append_cons {sep : Char} {xs as : Str} (hxs : sep ∉ xs) (has : sep ∉ as) :
    (xs ++ sep :: as).splitOn sep = [xs, as] := by
  have hsep (l : Str) (hl : sep ∉ l) : ∀ x ∈ l, ¬(x == sep) = true := fun x hx h =>
    hl (eq_of_beq h ▸ hx)
  rw [List.splitOn, List.splitOnP_first _ _ (hsep xs hxs) _ (beq_self_eq_true sep),
    List.splitOnP_eq_single _ _ (hsep as has)]

/-- `_execute_zdaemon_command` reads back the pid of zdaemon's status line: a run that exits with
0 and prints `program running; pid=<pid>` followed by whitespace returns `<pid>`, for every pid
with no `;`, `=` or whitespace in it. -/
theorem execute_zdaemon_command_reads_pid (popen : List Str → ProcResult) (commandList : List Str)
    {pid tail : Str} (hchars : ∀ c ∈ pid, c ≠ ';' ∧ c ≠ '=' ∧ c ∉ whitespace)
    (htail : ∀ c ∈ tail, c ∈ whitespace)
    (hrc : (popen commandList).returncode = some 0)
    (hout : (popen commandList).stdout = "program running; pid=".toList ++ pid ++ tail) :
    executeZdaemonCommand popen commandList = .ok (some pid) := by
  have hws : ∀ c ∈ pid, c ∉ whitespace := fun c hc => (hchars c hc).2.2
  have hsemi : ';' ∉ " pid=".toList ++ pid ++ tail := by
    simp only [List.mem_append, not_or]
    exact ⟨⟨by decide, fun h => (hchars _ h).1 rfl⟩,
      fun h => absurd (htail _ h) (by decide)⟩
  have hline : "program running; pid=".toList ++ pid ++ tail =
      "program running".toList ++ ';' :: (" pid=".toList ++ pid ++ tail) := by
    simp only [List.append_assoc]
    rfl
  have hstrip : strip whitespace (" pid=".toList ++ pid ++ tail) = "pid".toList ++ '=' :: pid := by
    rw [show " pid=".toList ++ pid ++ tail = [' '] ++ ('p' :: ("id=".toList ++ pid)) ++ tail
        from rfl,
      strip_append_append (by decide) htail (by rw [lstrip_cons_of_not_mem (by decide)]; simp),
      strip_eq_self]
    · rfl
    · intro c hc
      rw [← List.cons_append, List.mem_append] at hc
      rcases hc with h | h
      · revert h; revert c; decide
      · exact hws c h
  have hpid : strip whitespace pid = pid := strip_eq_self hws
  have hsplit1 : ("program running".toList ++ ';' :: (" pid=".toList ++ pid ++ tail)).splitOn ';' =
      ["program running".toList, " pid=".toList ++ pid ++ tail] :=
    splitOn_append_cons (by decide) hsemi
  have hsplit2 : ("pid".toList ++ '=' :: pid).splitOn '=' = ["pid".toList, pid] :=
    splitOn_append_cons (by decide) fun h => (hchars _ h).2.1 rfl
  have hstart : startswith (popen commandList).stdout "program running".toList = true := by
    rw [hout, hline, startswith, List.isPrefixOf_iff_prefix]
    exact List.prefix_append _ _
  rw [executeZdaemonCommand, hrc]
  dsimp only
  have hidx : ∀ a b : Str, pyIndex [a, b] 1 = .ok b := fun _ _ => rfl
  rw [if_neg (by decide), if_pos hstart, hout, hline, hsplit1, hidx, ok_bind, hstrip, hsplit2,
    hidx, ok_bind, hpid]
  rfl
theorem execute_zdaemon_command_reads_pid_witness :
    (∀ c ∈ "4242".toList, c ≠ ';' ∧ c ≠ '=' ∧ c ∉ whitespace) ∧
    (∀ c ∈ "\n".toList, c ∈ whitespace) ∧
    ((fun _ => ⟨some 0, "program running; pid=4242\n".toList, []⟩ : List Str → ProcResult)
      []).returncode = some 0 ∧
    ((fun _ => ⟨some 0, "program running; pid=4242\n".toList, []⟩ : List Str → ProcResult)
      []).stdout = "program running; pid=".toList ++ "4242".toList ++ "\n".toList ∧
    executeZdaemonCommand (fun _ => ⟨some 0, "program running; pid=4242\n".toList, []⟩) [] =
      .ok (some "4242".toList) :=
  ⟨by decide, by decide, rfl, rfl, execute_zdaemon_command_reads_pid _ _ (by decide) (by decide)
    rfl rfl⟩

/-- `conf_file.strip(prefix).strip('.').lstrip('0')`. -/
def zdaemonPort (pfx confFile : Str) : Str :=
  lstrip "0".toList (strip ".".toList (strip pfx confFile))

abbrev PortsPids := AList fun _ : Str => Option Str

def zdaemonCommandList (confFile command : Str) : List Str :=
  ["zdaemon".toList, "-C".toList, confFile, command]

/-- The loop of `ManageCommand._zdaemon_command` from the dict built so far, with `remove` what
`os.remove` does: the conf files it removes, then the dict or the exception that ends it. -/
def zdaemonCommandLoop (popen : List Str → ProcResult) (remove : Str → Except PyError Unit)
    (pfx command : Str) (portsPids : PortsPids) : List Str → List Str × Except PyError PortsPids
  | [] => ([], .ok portsPids)
  | confFile :: rest =>
    match executeZdaemonCommand popen (zdaemonCommandList confFile command) with
    | .error e => ([], .error e)
    | .ok pid =>
      let portsPids := portsPids.insert (zdaemonPort pfx confFile) pid
      if command = "stop".toList then
        match remove confFile with
        | .error e => ([], .error e)
        | .ok () =>
          let r := zdaemonCommandLoop popen remove pfx command portsPids rest
          (confFile :: r.1, r.2)
      else zdaemonCommandLoop popen remove pfx command portsPids rest

/-- `ManageCommand._zdaemon_command`: the conf files it removes, those removed before an
exception included, and the `ports_pids` it returns or the exception it raises. -/
def zdaemonCommand (popen : List Str → ProcResult) (remove : Str → Except PyError Unit)
    (componentDir : Str) (listing : List Str) (command : Str) :
    List Str × Except PyError PortsPids :=
  let pfx := pathJoinAll componentDir ["config".toList, "zdaemon".toList, "zdaemon".toList]
  zdaemonCommandLoop popen remove pfx command ∅ (zdaemonConfFiles componentDir listing)

theorem zdaemonCommandLoop_of_ne_stop {popen : List Str → ProcResult} {pfx command : Str}
    (h : command ≠ "stop".toList) (remove remove' : Str → Except PyError Unit) :
    ∀ (L : List Str) (acc : PortsPids), zdaemonCommandLoop popen remove pfx command acc L =
      zdaemonCommandLoop popen remove' pfx command acc L
  | [], _ => rfl
  | x :: L, acc => by
    rw [zdaemonCommandLoop, zdaemonCommandLoop]
    split <;> simp only [if_neg h, zdaemonCommandLoop_of_ne_stop h remove remove' L]

/-- Under `/srv/zato.0` the set strip eats the zeros of port 5000: both files get the key
`5`, and the pid of `zdaemon.5.conf` is lost. -/
theorem zdaemon_command_port_collision (remove : Str → Except PyError Unit) :
    (zdaemonCommand
        (fun cmd => ⟨some 0, "program running; pid=".toList ++
          (if cmd = zdaemonCommandList "/srv/zato.0/config/zdaemon/zdaemon.5.conf".toList
            "status".toList then "101" else "102").toList, []⟩) remove
        "/srv/zato.0".toList ["zdaemon.5.conf".toList, "zdaemon.5000.conf".toList]
        "status".toList).2.map AList.entries =
      .ok [⟨"5".toList, some "102".toList⟩] := by
  rw [zdaemonCommand, zdaemonCommandLoop_of_ne_stop (by decide) remove fun _ => .ok ()]
  decide

section Ports

/-- `str(p)` for a port number. -/
def decimal (p : Nat) : Str := (Nat.digits 10 p).reverse.map Nat.digitChar

/-- The conf file of port `p` written with `zeros` leading zeros: `zdaemon.<p>.conf`. -/
def confName (zeros p : Nat) : Str :=
  "zdaemon".toList ++ '.' :: (List.replicate zeros '0' ++ decimal p ++ ".conf".toList)

private theorem digitChar_sub : ∀ d < 10, (Nat.digitChar d).toNat - 48 = d := by decide

private theorem digitChar_ne :
    ∀ d < 10, Nat.digitChar d ≠ '.' ∧ (d ≠ 0 → Nat.digitChar d ≠ '0') := by
  decide

private theorem digitChar_ne_slash : ∀ d < 10, Nat.digitChar d ≠ '/' := by decide

theorem decimal_injective : Function.Injective decimal := by
  have key (n : Nat) : ((decimal n).map fun c => c.toNat - 48).reverse = Nat.digits 10 n := by
    have h : ((Nat.digits 10 n).reverse.map fun d => (Nat.digitChar d).toNat - 48) =
        (Nat.digits 10 n).reverse := by
      conv_rhs => rw [← List.map_id (Nat.digits 10 n).reverse]
      exact List.map_congr_left fun d hd =>
        digitChar_sub d (Nat.digits_lt_base (by norm_num) (List.mem_reverse.mp hd))
    rw [decimal, List.map_map]
    exact (congrArg List.reverse h).trans (List.reverse_reverse _)
  intro p q h
  exact Nat.digits.injective 10 (by rw [← key p, ← key q, h])

theorem mem_decimal {p : Nat} {c : Char} (h : c ∈ decimal p) :
    ∃ d < 10, c = Nat.digitChar d := by
  simp only [decimal, List.mem_map, List.mem_reverse] at h
  obtain ⟨d, hd, rfl⟩ := h
  exact ⟨d, Nat.digits_lt_base (by norm_num) hd, rfl⟩

theorem decimal_eq_cons {p : Nat} (hp : 0 < p) :
    ∃ c rest, decimal p = c :: rest ∧ c ≠ '0' := by
  rcases List.eq_nil_or_concat' (Nat.digits 10 p) with h | ⟨l, d, h⟩
  · exact absurd h (Nat.digits_ne_nil_iff_ne_zero.mpr hp.ne')
  · have hd := Nat.getLast_digit_ne_zero 10 hp.ne'
    rw [List.getLast_congr _ (by simp) h, List.getLast_append_singleton] at hd
    have hlt : d < 10 := Nat.digits_lt_base (by norm_num) (by rw [h]; simp)
    exact ⟨_, (l.map Nat.digitChar).reverse, by simp [decimal, h], (digitChar_ne d hlt).2 hd⟩

theorem confName_fnmatch (zeros p : Nat) :
    fnmatchStar "zdaemon".toList ".conf".toList (confName zeros p) = true := by
  simp only [fnmatchStar, confName, Bool.and_eq_true, List.isPrefixOf_iff_prefix,
    List.isSuffixOf_iff_suffix, decide_eq_true_eq, List.length_append, List.length_cons]
  refine ⟨⟨List.prefix_append _ _, ?_⟩, by simp; omega⟩
  rw [← List.cons_append, ← List.append_assoc]
  exact List.suffix_append _ _

theorem slash_not_mem_confName (zeros p : Nat) : '/' ∉ confName zeros p := by
  intro h
  simp only [confName, List.mem_append, List.mem_cons, List.mem_replicate] at h
  rcases h with h | h | (⟨-, h⟩ | h) | h
  · revert h; decide
  · revert h; decide
  · revert h; decide
  · obtain ⟨d, hd, he⟩ := mem_decimal h
    exact digitChar_ne_slash d hd he.symm
  · revert h; decide

theorem confName_inj {zeros p q : Nat} (h : confName zeros p = confName zeros q) : p = q := by
  simp only [confName, List.append_cancel_left_eq, List.cons.injEq, true_and,
    List.append_cancel_right_eq] at h
  exact decimal_injective h

theorem zdaemonDir_eq (d : Str) :
    zdaemonDir d = pathJoin (pathJoin d "config".toList) "zdaemon".toList := rfl

theorem zdaemonPort_confName {d : Str} (hd : '.' ∉ d) (zeros : Nat) {p : Nat} (hp : 0 < p) :
    zdaemonPort (pathJoinAll d ["config".toList, "zdaemon".toList, "zdaemon".toList])
      (pathJoin (zdaemonDir d) (confName zeros p)) = decimal p := by
  let pfx := pathJoin (pathJoin (pathJoin d "config".toList) "zdaemon".toList) "zdaemon".toList
  let w := List.replicate zeros '0' ++ decimal p
  obtain ⟨c, rest, hdec, hc0⟩ := decimal_eq_cons hp
  have hw : ∀ x ∈ w, x ≠ '.' := by
    intro x hx
    rcases List.mem_append.mp hx with hx | hx
    · rw [List.eq_of_mem_replicate hx]; decide
    · obtain ⟨k, hk, rfl⟩ := mem_decimal hx
      exact (digitChar_ne k hk).1
  obtain ⟨x, t, hxt⟩ : ∃ x t, w = x :: t := by
    cases zeros with
    | zero => exact ⟨c, rest, by simp [w, hdec]⟩
    | succ n => exact ⟨'0', _, rfl⟩
  have hdot : '.' ∉ pfx :=
    not_mem_pathJoin (not_mem_pathJoin (not_mem_pathJoin hd (by decide) (by decide)) (by decide)
      (by decide)) (by decide) (by decide)
  have hconf : ∀ y ∈ "conf".toList, y ∈ pfx := fun y hy =>
    mem_pathJoin_left (by decide) (mem_pathJoin_left (by decide)
      (mem_pathJoin_right ((by decide : ∀ y ∈ "conf".toList, y ∈ "config".toList) y hy)))
  have hpath : pathJoin (zdaemonDir d) (confName zeros p) =
      pfx ++ '.' :: (w ++ ['.']) ++ "conf".toList := by
    rw [confName, pathJoin_append (by decide) (by decide)]
    simp [w, pfx, zdaemonDir_eq]
  have hstrip1 : strip pfx (pfx ++ '.' :: (w ++ ['.']) ++ "conf".toList) = '.' :: (w ++ ['.']) := by
    rw [strip_append_append (fun _ h => h) hconf (by rw [lstrip_cons_of_not_mem hdot]; simp),
      strip, lstrip_cons_of_not_mem hdot, rstrip_eq_self_of_getLast
      (by rw [← List.cons_append, List.getLast?_concat]; simpa using hdot)]
  have hstrip2 : strip ".".toList (['.'] ++ w ++ ['.']) = w := by
    rw [strip_append_append (by simp) (by simp)
      (by rw [hxt, lstrip_cons_of_not_mem (by simpa using hw x (by simp [hxt]))]; simp),
      strip_eq_self (by simpa using hw)]
  change lstrip "0".toList (strip ".".toList (strip pfx _)) = _
  rw [hpath, hstrip1]
  change lstrip "0".toList (strip ".".toList (['.'] ++ w ++ ['.'])) = _
  rw [hstrip2, lstrip_append_of_forall_mem (fun y hy => by simp [List.eq_of_mem_replicate hy]),
    hdec, lstrip_cons_of_not_mem (by simpa using hc0)]

end Ports

/-- A conf file past which `_zdaemon_command` goes on: its `zdaemon` run returns and, with
`stop`, its removal succeeds. -/
def StepReturns (popen : List Str → ProcResult) (remove : Str → Except PyError Unit)
    (command confFile : Str) : Prop :=
  (∃ pid, executeZdaemonCommand popen (zdaemonCommandList confFile command) = .ok pid) ∧
  (command = "stop".toList → remove confFile = .ok ())

/-- A conf file on which `_zdaemon_command` raises `e`: from its `zdaemon` run or, with `stop`,
from `os.remove` after a run that returned. -/
def StepRaises (popen : List Str → ProcResult) (remove : Str → Except PyError Unit)
    (command confFile : Str) (e : PyError) : Prop :=
  executeZdaemonCommand popen (zdaemonCommandList confFile command) = .error e ∨
    (∃ pid, executeZdaemonCommand popen (zdaemonCommandList confFile command) = .ok pid) ∧
      command = "stop".toList ∧ remove confFile = .error e

section Loop

variable {popen : List Str → ProcResult} {remove : Str → Except PyError Unit} {pfx command : Str}

theorem zdaemonCommandLoop_cons_ok {x : Str} {L M : List Str} {acc : PortsPids}
    {pid : Option Str} {res : Except PyError PortsPids}
    (hx : executeZdaemonCommand popen (zdaemonCommandList x command) = .ok pid)
    (hrm : command = "stop".toList → remove x = .ok ())
    (hr : zdaemonCommandLoop popen remove pfx command (acc.insert (zdaemonPort pfx x) pid) L =
      (if command = "stop".toList then M else [], res)) :
    zdaemonCommandLoop popen remove pfx command acc (x :: L) =
      (if command = "stop".toList then x :: M else [], res) := by
  rw [zdaemonCommandLoop, hx]
  by_cases hs : command = "stop".toList
  · simp only [if_pos hs] at hr
    simp only [if_pos hs, hrm hs, hr]
  · simp only [if_neg hs] at hr ⊢
    exact hr

theorem zdaemonCommandLoop_outcome : ∀ (L : List Str) (acc : PortsPids),
    (∃ r, zdaemonCommandLoop popen remove pfx command acc L =
        (if command = "stop".toList then L else [], .ok r) ∧
      ∀ x ∈ L, StepReturns popen remove command x) ∨
    ∃ done x rest e, L = done ++ x :: rest ∧ (∀ y ∈ done, StepReturns popen remove command y) ∧
      StepRaises popen remove command x e ∧
      zdaemonCommandLoop popen remove pfx command acc L =
        (if command = "stop".toList then done else [], .error e)
  | [], acc => .inl ⟨acc, by split_ifs <;> rfl, by simp⟩
  | x :: L, acc => by
    cases hx : executeZdaemonCommand popen (zdaemonCommandList x command) with
    | error e =>
      refine .inr ⟨[], x, L, e, rfl, by simp, .inl hx, ?_⟩
      rw [zdaemonCommandLoop, hx]
      split_ifs <;> rfl
    | ok pid =>
      by_cases hrm : command = "stop".toList → remove x = .ok ()
      · have hstep : StepReturns popen remove command x := ⟨⟨pid, hx⟩, hrm⟩
        rcases zdaemonCommandLoop_outcome L (acc.insert (zdaemonPort pfx x) pid) with
          ⟨r, hr, hall⟩ | ⟨done, y, rest, e, rfl, hdone, hy, hr⟩
        · exact .inl ⟨r, zdaemonCommandLoop_cons_ok hx hrm hr,
            List.forall_mem_cons.mpr ⟨hstep, hall⟩⟩
        · exact .inr ⟨x :: done, y, rest, e, rfl, List.forall_mem_cons.mpr ⟨hstep, hdone⟩, hy,
            zdaemonCommandLoop_cons_ok hx hrm hr⟩
      · obtain ⟨hs, hne⟩ := Classical.not_imp.mp hrm
        obtain ⟨e, he⟩ : ∃ e, remove x = .error e := by
          cases h : remove x with
          | error e => exact ⟨e, rfl⟩
          | ok u => exact absurd h hne
        refine .inr ⟨[], x, L, e, rfl, by simp, .inr ⟨⟨pid, hx⟩, hs, he⟩, ?_⟩
        rw [zdaemonCommandLoop, hx]
        simp [hs, he]

theorem zdaemonCommandLoop_lookup {pid : Str → Option Str} : ∀ (L : List Str) (acc : PortsPids),
    (∀ x ∈ L, executeZdaemonCommand popen (zdaemonCommandList x command) = .ok (pid x)) →
    (command = "stop".toList → ∀ x ∈ L, remove x = .ok ()) →
    ∃ r, zdaemonCommandLoop popen remove pfx command acc L =
        (if command = "stop".toList then L else [], .ok r) ∧
      ∀ k, r.lookup k =
        ((L.reverse.find? fun x => zdaemonPort pfx x = k).map pid).or (acc.lookup k)
  | [], acc, _, _ => ⟨acc, by split_ifs <;> rfl, fun k => rfl⟩
  | x :: L, acc, hexec, hrm => by
    obtain ⟨r, hr, hlook⟩ :=
      zdaemonCommandLoop_lookup L (acc.insert (zdaemonPort pfx x) (pid x))
        (fun y hy => hexec y (List.mem_cons_of_mem x hy))
        (fun hs y hy => hrm hs y (List.mem_cons_of_mem x hy))
    refine ⟨r, zdaemonCommandLoop_cons_ok (hexec x (List.mem_cons_self x L))
      (fun hs => hrm hs x (List.mem_cons_self x L)) hr, fun k => ?_⟩
    rw [hlook k, List.reverse_cons, List.find?_append]
    cases List.find? (fun y => decide (zdaemonPort pfx y = k)) L.reverse with
    | some y => rfl
    | none =>
      by_cases hk : zdaemonPort pfx x = k
      · subst hk
        simp [AList.lookup_insert]
      · simp [AList.lookup_insert_ne (Ne.symm hk), hk]

end Loop

/-- `_zdaemon_command` runs the command on the sorted conf files one by one and stops at the first
that raises. Either every run returns and, with `stop`, every removal succeeds, and every conf
file is removed; or it raises what the first failing run or removal raised, and with `stop`
exactly the conf files before that one have been removed. -/
theorem zdaemon_command_stops_at_first_failure (popen : List Str → ProcResult)
    (remove : Str → Except PyError Unit) (componentDir : Str) (listing : List Str)
    (command : Str) : GlobLiteral componentDir →
    (∃ r, zdaemonCommand popen remove componentDir listing command =
        (if command = "stop".toList then zdaemonConfFiles componentDir listing else [], .ok r) ∧
      ∀ f ∈ zdaemonConfFiles componentDir listing, StepReturns popen remove command f) ∨
    ∃ done f rest e, zdaemonConfFiles componentDir listing = done ++ f :: rest ∧
      (∀ g ∈ done, StepReturns popen remove command g) ∧ StepRaises popen remove command f e ∧
      zdaemonCommand popen remove componentDir listing command =
        (if command = "stop".toList then done else [], .error e) :=
  fun _ => zdaemonCommandLoop_outcome _ ∅

theorem zdaemon_command_stops_at_first_failure_witness :
    GlobLiteral "/opt/zato".toList ∧
    ((∃ r, zdaemonCommand (fun _ => ⟨some 0, [], []⟩)
        (fun f => if f = "/opt/zato/config/zdaemon/zdaemon.2.conf".toList then
          .error (.valueError "read-only".toList) else .ok ()) "/opt/zato".toList
        ["zdaemon.1.conf".toList, "zdaemon.2.conf".toList] "stop".toList =
        (if "stop".toList = "stop".toList then zdaemonConfFiles "/opt/zato".toList
          ["zdaemon.1.conf".toList, "zdaemon.2.conf".toList] else [], .ok r) ∧
      ∀ f ∈ zdaemonConfFiles "/opt/zato".toList ["zdaemon.1.conf".toList, "zdaemon.2.conf".toList],
        StepReturns (fun _ => ⟨some 0, [], []⟩)
          (fun f => if f = "/opt/zato/config/zdaemon/zdaemon.2.conf".toList then
            .error (.valueError "read-only".toList) else .ok ()) "stop".toList f) ∨
    ∃ done f rest e, zdaemonConfFiles "/opt/zato".toList
        ["zdaemon.1.conf".toList, "zdaemon.2.conf".toList] = done ++ f :: rest ∧
      (∀ g ∈ done, StepReturns (fun _ => ⟨some 0, [], []⟩)
        (fun f => if f = "/opt/zato/config/zdaemon/zdaemon.2.conf".toList then
          .error (.valueError "read-only".toList) else .ok ()) "stop".toList g) ∧
      StepRaises (fun _ => ⟨some 0, [], []⟩)
        (fun f => if f = "/opt/zato/config/zdaemon/zdaemon.2.conf".toList then
          .error (.valueError "read-only".toList) else .ok ()) "stop".toList f e ∧
      zdaemonCommand (fun _ => ⟨some 0, [], []⟩)
          (fun f => if f = "/opt/zato/config/zdaemon/zdaemon.2.conf".toList then
            .error (.valueError "read-only".toList) else .ok ()) "/opt/zato".toList
          ["zdaemon.1.conf".toList, "zdaemon.2.conf".toList] "stop".toList =
        (if "stop".toList = "stop".toList then done else [], .error e)) :=
  ⟨by decide, zdaemon_command_stops_at_first_failure _ _ _ _ _ (by decide)⟩

/-- When every `zdaemon` run returns and, with `stop`, every removal succeeds, the dict
`_zdaemon_command` returns holds under each key the pid of the last conf file, in sorted order,
that the stripping turns into that key: conf files whose names strip to one key overwrite each
other, and no key is left without a file. -/
theorem zdaemon_command_last_file_wins (popen : List Str → ProcResult)
    (remove : Str → Except PyError Unit) (componentDir : Str) (listing : List Str)
    (command : Str) (pid : Str → Option Str) (_ : GlobLiteral componentDir)
    (hexec : ∀ f ∈ zdaemonConfFiles componentDir listing,
      executeZdaemonCommand popen (zdaemonCommandList f command) = .ok (pid f))
    (hremove : command = "stop".toList →
      ∀ f ∈ zdaemonConfFiles componentDir listing, remove f = .ok ()) :
    ∃ r, zdaemonCommand popen remove componentDir listing command =
        (if command = "stop".toList then zdaemonConfFiles componentDir listing else [], .ok r) ∧
      ∀ k, r.lookup k = ((zdaemonConfFiles componentDir listing).reverse.find? fun f =>
        zdaemonPort (pathJoinAll componentDir ["config".toList, "zdaemon".toList,
          "zdaemon".toList]) f = k).map pid := by
  obtain ⟨r, hr, hlook⟩ := zdaemonCommandLoop_lookup _ ∅ hexec hremove
  exact ⟨r, hr, fun k => (hlook k).trans Option.or_none⟩

theorem zdaemon_command_last_file_wins_witness :
    GlobLiteral "/srv/zato.0".toList ∧
    (∀ f ∈ zdaemonConfFiles "/srv/zato.0".toList
        ["zdaemon.5.conf".toList, "zdaemon.5000.conf".toList],
      executeZdaemonCommand (fun _ => ⟨some 0, "program running; pid=7".toList, []⟩)
        (zdaemonCommandList f "stop".toList) = .ok (some "7".toList)) ∧
    ("stop".toList = "stop".toList → ∀ f ∈ zdaemonConfFiles "/srv/zato.0".toList
        ["zdaemon.5.conf".toList, "zdaemon.5000.conf".toList],
      (fun _ => .ok () : Str → Except PyError Unit) f = .ok ()) ∧
    ∃ r, zdaemonCommand (fun _ => ⟨some 0, "program running; pid=7".toList, []⟩)
        (fun _ => .ok ()) "/srv/zato.0".toList
        ["zdaemon.5.conf".toList, "zdaemon.5000.conf".toList] "stop".toList =
        (if "stop".toList = "stop".toList then zdaemonConfFiles "/srv/zato.0".toList
          ["zdaemon.5.conf".toList, "zdaemon.5000.conf".toList] else [], .ok r) ∧
      ∀ k, r.lookup k = ((zdaemonConfFiles "/srv/zato.0".toList
        ["zdaemon.5.conf".toList, "zdaemon.5000.conf".toList]).reverse.find? fun f =>
          zdaemonPort (pathJoinAll "/srv/zato.0".toList ["config".toList, "zdaemon".toList,
            "zdaemon".toList]) f = k).map fun _ => some "7".toList :=
  ⟨by decide, fun _ _ => rfl, fun _ _ _ => rfl,
    zdaemon_command_last_file_wins _ _ _ _ _ _ (by decide) (fun _ _ => rfl) fun _ _ _ => rfl⟩

theorem find?_reverse_of_nodup {L : List Str} {f : Str → Str} (hnd : (L.map f).Nodup) {x : Str}
    (hx : x ∈ L) : L.reverse.find? (fun y => f y = f x) = some x := by
  cases h : L.reverse.find? (fun y => f y = f x) with
  | none => exact absurd (List.find?_eq_none.mp h x (List.mem_reverse.mpr hx)) (by simp)
  | some y =>
    have hy := List.mem_reverse.mp (List.mem_of_find?_eq_some h)
    rw [List.inj_on_of_nodup_map hnd hy hx (by simpa using List.find?_some h)]

theorem zdaemonCommand_of_confNames (popen : List Str → ProcResult)
    (remove : Str → Except PyError Unit) (d command : Str) (hd : '.' ∉ d) (listing : List Str)
    (files : List (Nat × Nat))
    (hlisting : (listing.filter (fnmatchStar "zdaemon".toList ".conf".toList)).Perm
      (files.map fun f => confName f.1 f.2))
    (hpos : ∀ f ∈ files, 0 < f.2) (hports : (files.map Prod.snd).Nodup)
    (pid : Str → Option Str)
    (hexec : ∀ f ∈ files, executeZdaemonCommand popen
      (zdaemonCommandList (pathJoin (zdaemonDir d) (confName f.1 f.2)) command) =
        .ok (pid (pathJoin (zdaemonDir d) (confName f.1 f.2))))
    (hremove : command = "stop".toList →
      ∀ f ∈ files, remove (pathJoin (zdaemonDir d) (confName f.1 f.2)) = .ok ()) :
    ∃ r, zdaemonCommand popen remove d listing command =
        (if command = "stop".toList then zdaemonConfFiles d listing else [], .ok r) ∧
      r.keys.Perm (files.map fun f => decimal f.2) ∧
      ∀ f ∈ files,
        r.lookup (decimal f.2) = some (pid (pathJoin (zdaemonDir d) (confName f.1 f.2))) := by
  let pfx := pathJoinAll d ["config".toList, "zdaemon".toList, "zdaemon".toList]
  let path : Nat × Nat → Str := fun f => pathJoin (zdaemonDir d) (confName f.1 f.2)
  have hL : (zdaemonConfFiles d listing).Perm (files.map path) := by
    have hmap := hlisting.map (pathJoin (zdaemonDir d))
    rw [List.map_map] at hmap
    exact (List.perm_insertionSort _ _).trans hmap
  have hfile : ∀ x ∈ zdaemonConfFiles d listing, ∃ f ∈ files, path f = x := fun x hx =>
    List.mem_map.mp (hL.mem_iff.mp hx)
  obtain ⟨r, hr, hlook⟩ := @zdaemonCommandLoop_lookup _ _ pfx _ _ _ ∅
    (fun x hx => by obtain ⟨f, hf, rfl⟩ := hfile x hx; exact hexec f hf)
    (fun hs x hx => by obtain ⟨f, hf, rfl⟩ := hfile x hx; exact hremove hs f hf)
  have hport : ∀ f ∈ files, zdaemonPort pfx (path f) = decimal f.2 := fun f hf =>
    zdaemonPort_confName hd f.1 (hpos f hf)
  have hkeys : ((zdaemonConfFiles d listing).map (zdaemonPort pfx)).Perm
      (files.map fun f => decimal f.2) := by
    have hcomp : files.map (zdaemonPort pfx ∘ path) = files.map fun f => decimal f.2 :=
      List.map_congr_left fun f hf => by rw [Function.comp_apply]; exact hport f hf
    have hmap := hL.map (zdaemonPort pfx)
    rwa [List.map_map, hcomp] at hmap
  have hnd : ((zdaemonConfFiles d listing).map (zdaemonPort pfx)).Nodup :=
    hkeys.nodup_iff.mpr (by simpa [List.map_map] using hports.map decimal_injective)
  refine ⟨r, hr, ?_, fun f hf => ?_⟩
  · refine ((List.perm_ext_iff_of_nodup r.nodupKeys hnd).mpr fun k => ?_).trans hkeys
    change k ∈ r.keys ↔ _
    rw [← AList.mem_keys, ← AList.lookup_isSome, hlook, AList.lookup_empty, Option.or_none,
      Option.isSome_map',
      List.find?_isSome, List.mem_map]
    simp only [List.mem_reverse, decide_eq_true_eq]
  · have hmem : path f ∈ zdaemonConfFiles d listing := hL.mem_iff.mpr (List.mem_map_of_mem path hf)
    rw [hlook, ← hport f hf, find?_reverse_of_nodup hnd hmem]
    rfl

/-- Under a component directory without a `.` or glob's magic characters, when every `zdaemon`
run returns and, with `stop`, every removal succeeds, `_zdaemon_command` returns one entry per
conf file, keyed by its port in decimal with no leading zeros and holding the pid returned for
that file, and on `stop` it removes exactly the conf files. -/
theorem zdaemon_command_ports_of_dotless_dir (popen : List Str → ProcResult)
    (remove : Str → Except PyError Unit) (d command : Str) (hd : '.' ∉ d)
    (_ : GlobLiteral d) (listing : List Str) (files : List (Nat × Nat))
    (hlisting : listing.filter (fnmatchStar "zdaemon".toList ".conf".toList) =
      files.map fun f => confName f.1 f.2)
    (hpos : ∀ f ∈ files, 0 < f.2) (hports : (files.map Prod.snd).Nodup)
    (pid : Str → Option Str)
    (hexec : ∀ f ∈ files, executeZdaemonCommand popen
      (zdaemonCommandList (pathJoin (zdaemonDir d) (confName f.1 f.2)) command) =
        .ok (pid (pathJoin (zdaemonDir d) (confName f.1 f.2))))
    (hremove : command = "stop".toList →
      ∀ f ∈ files, remove (pathJoin (zdaemonDir d) (confName f.1 f.2)) = .ok ()) :
    ∃ r, zdaemonCommand popen remove d listing command =
        (if command = "stop".toList then zdaemonConfFiles d listing else [], .ok r) ∧
      r.keys.Perm (files.map fun f => decimal f.2) ∧
      ∀ f ∈ files,
        r.lookup (decimal f.2) = some (pid (pathJoin (zdaemonDir d) (confName f.1 f.2))) :=
  zdaemonCommand_of_confNames popen remove d command hd listing files (List.Perm.of_eq hlisting)
    hpos hports pid hexec hremove

theorem zdaemon_command_ports_of_dotless_dir_witness :
    '.' ∉ "/opt/zato".toList ∧ GlobLiteral "/opt/zato".toList ∧
    ["zdaemon.5.conf".toList, "zdaemon.05000.conf".toList, "zdaemon.5.sock".toList].filter
        (fnmatchStar "zdaemon".toList ".conf".toList) =
      [(0, 5), (1, 5000)].map (fun f => confName f.1 f.2) ∧
    (∀ f ∈ [(0, 5), (1, 5000)], 0 < f.2) ∧ ([(0, 5), (1, 5000)].map Prod.snd).Nodup ∧
    (∀ f ∈ [(0, 5), (1, 5000)], executeZdaemonCommand
      (fun _ => ⟨some 0, "program running; pid=7".toList, []⟩)
      (zdaemonCommandList (pathJoin (zdaemonDir "/opt/zato".toList) (confName f.1 f.2))
        "stop".toList) = .ok (some "7".toList)) ∧
    ∃ r, zdaemonCommand (fun _ => ⟨some 0, "program running; pid=7".toList, []⟩)
        (fun _ => .ok ()) "/opt/zato".toList
        ["zdaemon.5.conf".toList, "zdaemon.05000.conf".toList, "zdaemon.5.sock".toList]
        "stop".toList =
        (if "stop".toList = "stop".toList then zdaemonConfFiles "/opt/zato".toList
          ["zdaemon.5.conf".toList, "zdaemon.05000.conf".toList, "zdaemon.5.sock".toList]
          else [], .ok r) ∧
      r.keys.Perm ([(0, 5), (1, 5000)].map fun f => decimal f.2) ∧
      ∀ f ∈ [(0, 5), (1, 5000)], r.lookup (decimal f.2) = some (some "7".toList) := by
  have hlisting : ["zdaemon.5.conf".toList, "zdaemon.05000.conf".toList,
      "zdaemon.5.sock".toList].filter (fnmatchStar "zdaemon".toList ".conf".toList) =
      [(0, 5), (1, 5000)].map (fun f => confName f.1 f.2) := by
    have h5 : decimal 5 = "5".toList := by simp [decimal]; decide
    have h5000 : decimal 5000 = "5000".toList := by simp [decimal]; decide
    simp only [List.map, confName, h5, h5000]
    decide
  have hpos : ∀ f ∈ [(0, 5), (1, 5000)], 0 < f.2 := by decide
  have hports : ([(0, 5), (1, 5000)].map Prod.snd).Nodup := by decide
  exact ⟨by decide, by decide, hlisting, hpos, hports, fun _ _ => rfl,
    zdaemon_command_ports_of_dotless_dir
      (fun _ => ⟨some 0, "program running; pid=7".toList, []⟩) (fun _ => .ok ())
      "/opt/zato".toList "stop".toList (by decide) (by decide) _ _ hlisting hpos hports
      (fun _ => some "7".toList) (fun _ _ => rfl) fun _ _ _ => rfl⟩

def startArgs (program socketName logfilePath : Str) : List (Str × PyObj) :=
  [("program".toList, .str program), ("socket_name".toList, .str socketName),
   ("logfile_path".toList, .str logfilePath)]

/-- `ManageCommand._zdaemon_start`, with `self.config_dir` as `execute` sets it,
`os.path.join(self.component_dir, 'config')`, and `write` what `open(path, 'w').write(text)` does:
the conf file it writes, if the template formats and the write succeeds, and what the
`zdaemon start` run raises; the pid that run returns is dropped. -/
def zdaemonStart (popen : List Str → ProcResult) (write : Str → Str → Except PyError Unit)
    (componentDir contentsTemplate zdaemonConfName socketPrefix logfilePathPrefix program : Str) :
    List (Str × Str) × Except PyError Unit :=
  let configDir := pathJoin componentDir "config".toList
  let zdaemonConfName := pathJoinAll configDir ["zdaemon".toList, zdaemonConfName]
  let socketName := pathJoinAll configDir ["zdaemon".toList, socketPrefix ++ ".sock".toList]
  let logfilePath := pathJoinAll componentDir ["logs".toList, logfilePathPrefix ++ ".log".toList]
  match strFormat contentsTemplate [] fun k =>
      (startArgs program socketName logfilePath).lookup k with
  | .error e => ([], .error e)
  | .ok conf =>
    match write zdaemonConfName conf with
    | .error e => ([], .error e)
    | .ok () => ([(zdaemonConfName, conf)], (fun _ => ()) <$>
        executeZdaemonCommand popen (zdaemonCommandList zdaemonConfName "start".toList))

theorem pathJoinAll_configDir (componentDir name : Str) :
    pathJoinAll (pathJoin componentDir "config".toList) ["zdaemon".toList, name] =
      pathJoin (zdaemonDir componentDir) name :=
  rfl

theorem zdaemonStart_of_known_fields (popen : List Str → ProcResult)
    (write : Str → Str → Except PyError Unit)
    (componentDir zdaemonConfName socketPrefix logfilePathPrefix program : Str)
    {ps : List FormatPart} (hps : ∀ p ∈ ps, p.Plain)
    (h : ∀ name, FormatPart.field name ∈ ps →
      name ∈ ["program".toList, "socket_name".toList, "logfile_path".toList]) :
    ∃ conf, FormatPart.fill [] (fun k => (startArgs program
        (pathJoin (zdaemonDir componentDir) (socketPrefix ++ ".sock".toList))
        (pathJoinAll componentDir ["logs".toList, logfilePathPrefix ++ ".log".toList])).lookup k)
        .init ps = .ok conf ∧
      (write (pathJoin (zdaemonDir componentDir) zdaemonConfName) conf = .ok () →
        zdaemonStart popen write componentDir (ps.flatMap FormatPart.render) zdaemonConfName
            socketPrefix logfilePathPrefix program =
          ([(pathJoin (zdaemonDir componentDir) zdaemonConfName, conf)], (fun _ => ()) <$>
            executeZdaemonCommand popen (zdaemonCommandList
              (pathJoin (zdaemonDir componentDir) zdaemonConfName) "start".toList))) ∧
      ∀ e, write (pathJoin (zdaemonDir componentDir) zdaemonConfName) conf = .error e →
        zdaemonStart popen write componentDir (ps.flatMap FormatPart.render) zdaemonConfName
          socketPrefix logfilePathPrefix program = ([], .error e) := by
  set kwargs := startArgs program
    (pathJoin (zdaemonDir componentDir) (socketPrefix ++ ".sock".toList))
    (pathJoinAll componentDir ["logs".toList, logfilePathPrefix ++ ".log".toList])
  have hkeys : kwargs.map Prod.fst =
      ["program".toList, "socket_name".toList, "logfile_path".toList] := rfl
  obtain ⟨conf, hconf⟩ :=
    (@fill_lookup_ok_iff kwargs (by rw [hkeys]; decide) .init ps).mpr (hkeys ▸ h)
  have hstart : zdaemonStart popen write componentDir (ps.flatMap FormatPart.render)
      zdaemonConfName socketPrefix logfilePathPrefix program =
      match write (pathJoin (zdaemonDir componentDir) zdaemonConfName) conf with
      | .error e => ([], .error e)
      | .ok () => ([(pathJoin (zdaemonDir componentDir) zdaemonConfName, conf)], (fun _ => ()) <$>
          executeZdaemonCommand popen (zdaemonCommandList
            (pathJoin (zdaemonDir componentDir) zdaemonConfName) "start".toList)) := by
    simp only [zdaemonStart, pathJoinAll_configDir, strFormat_render hps]
    rw [hconf]
  refine ⟨conf, hconf, fun hw => ?_, fun e he => ?_⟩ <;> rw [hstart]
  · rw [hw]
  · rw [he]

/-- `_zdaemon_start` with a conf template written from literal text and simple fields. When every
field is `program`, `socket_name` or `logfile_path`, it fills the template and writes it as
`zdaemon_conf_name` into the directory `_zdaemon_command` globs, with the socket in that same
directory and the log under `logs`; if the write succeeds it then raises what
`zdaemon -C <conf> start` raises, and otherwise it raises the write's error. Any other field
raises before anything is written. -/
theorem zdaemon_start_spec (popen : List Str → ProcResult) (write : Str → Str → Except PyError Unit)
    (componentDir zdaemonConfName socketPrefix logfilePathPrefix program : Str)
    {ps : List FormatPart} (hps : ∀ p ∈ ps, p.Plain) :
    ((∀ name, FormatPart.field name ∈ ps →
        name ∈ ["program".toList, "socket_name".toList, "logfile_path".toList]) ∧
      ∃ conf, FormatPart.fill [] (fun k => (startArgs program
          (pathJoin (zdaemonDir componentDir) (socketPrefix ++ ".sock".toList))
          (pathJoinAll componentDir ["logs".toList, logfilePathPrefix ++ ".log".toList])).lookup k)
          .init ps = .ok conf ∧
        (write (pathJoin (zdaemonDir componentDir) zdaemonConfName) conf = .ok () →
          zdaemonStart popen write componentDir (ps.flatMap FormatPart.render) zdaemonConfName
              socketPrefix logfilePathPrefix program =
            ([(pathJoin (zdaemonDir componentDir) zdaemonConfName, conf)], (fun _ => ()) <$>
              executeZdaemonCommand popen (zdaemonCommandList
                (pathJoin (zdaemonDir componentDir) zdaemonConfName) "start".toList))) ∧
        ∀ e, write (pathJoin (zdaemonDir componentDir) zdaemonConfName) conf = .error e →
          zdaemonStart popen write componentDir (ps.flatMap FormatPart.render) zdaemonConfName
            socketPrefix logfilePathPrefix program = ([], .error e)) ∨
    ((∃ name, FormatPart.field name ∈ ps ∧
        name ∉ ["program".toList, "socket_name".toList, "logfile_path".toList]) ∧
      ∃ e, zdaemonStart popen write componentDir (ps.flatMap FormatPart.render) zdaemonConfName
          socketPrefix logfilePathPrefix program = ([], .error e)) := by
  by_cases h : ∀ name, FormatPart.field name ∈ ps →
      name ∈ ["program".toList, "socket_name".toList, "logfile_path".toList]
  · exact .inl ⟨h, zdaemonStart_of_known_fields popen write componentDir zdaemonConfName
      socketPrefix logfilePathPrefix program hps h⟩
  · set kwargs := startArgs program
      (pathJoin (zdaemonDir componentDir) (socketPrefix ++ ".sock".toList))
      (pathJoinAll componentDir ["logs".toList, logfilePathPrefix ++ ".log".toList])
    have hkeys : kwargs.map Prod.fst =
        ["program".toList, "socket_name".toList, "logfile_path".toList] := rfl
    have hok := @fill_lookup_ok_iff kwargs (by rw [hkeys]; decide) .init ps
    rw [hkeys] at hok
    simp only [zdaemonStart, pathJoinAll_configDir, strFormat_render hps]
    cases hf : FormatPart.fill [] (fun k => kwargs.lookup k) .init ps with
    | ok conf => exact absurd (hok.mp ⟨conf, hf⟩) h
    | error e =>
      push_neg at h
      exact .inr ⟨h, e, rfl⟩

/-- The conf names its socket beside it and its log under `logs`. -/
example : (zdaemonStart (fun _ => ⟨some 0, [], []⟩) (fun _ _ => .ok ()) "/opt/zato".toList
    "socket=\x7bsocket_name\x7d log=\x7blogfile_path\x7d".toList "zdaemon.conf".toList
    "server".toList "server".toList "zato".toList).1 =
      [("/opt/zato/config/zdaemon/zdaemon.conf".toList,
        "socket=/opt/zato/config/zdaemon/server.sock log=/opt/zato/logs/server.log".toList)] := by
  decide

theorem zdaemon_start_spec_witness :
    (∀ p ∈ [FormatPart.lit 'p', .lit '=', .field "program".toList], p.Plain) ∧
    (((∀ name, FormatPart.field name ∈ [FormatPart.lit 'p', .lit '=', .field "program".toList] →
        name ∈ ["program".toList, "socket_name".toList, "logfile_path".toList]) ∧
      ∃ conf, FormatPart.fill [] (fun k => (startArgs "zato".toList
          (pathJoin (zdaemonDir "/opt/zato".toList) ("server".toList ++ ".sock".toList))
          (pathJoinAll "/opt/zato".toList ["logs".toList, "server".toList ++ ".log".toList])).lookup
            k) .init [FormatPart.lit 'p', .lit '=', .field "program".toList] = .ok conf ∧
        ((fun _ _ => .ok ()) (pathJoin (zdaemonDir "/opt/zato".toList) "zdaemon.conf".toList) conf =
            (.ok () : Except PyError Unit) →
          zdaemonStart (fun _ => ⟨some 0, [], []⟩) (fun _ _ => .ok ()) "/opt/zato".toList
              ([FormatPart.lit 'p', .lit '=', .field "program".toList].flatMap FormatPart.render)
              "zdaemon.conf".toList "server".toList "server".toList "zato".toList =
            ([(pathJoin (zdaemonDir "/opt/zato".toList) "zdaemon.conf".toList, conf)],
              (fun _ => ()) <$> executeZdaemonCommand (fun _ => ⟨some 0, [], []⟩)
                (zdaemonCommandList (pathJoin (zdaemonDir "/opt/zato".toList)
                  "zdaemon.conf".toList) "start".toList))) ∧
        ∀ e, (fun _ _ => .ok ()) (pathJoin (zdaemonDir "/opt/zato".toList) "zdaemon.conf".toList)
            conf = (.error e : Except PyError Unit) →
          zdaemonStart (fun _ => ⟨some 0, [], []⟩) (fun _ _ => .ok ()) "/opt/zato".toList
            ([FormatPart.lit 'p', .lit '=', .field "program".toList].flatMap FormatPart.render)
            "zdaemon.conf".toList "server".toList "server".toList "zato".toList = ([], .error e)) ∨
    ((∃ name, FormatPart.field name ∈ [FormatPart.lit 'p', .lit '=', .field "program".toList] ∧
        name ∉ ["program".toList, "socket_name".toList, "logfile_path".toList]) ∧
      ∃ e, zdaemonStart (fun _ => ⟨some 0, [], []⟩) (fun _ _ => .ok ()) "/opt/zato".toList
          ([FormatPart.lit 'p', .lit '=', .field "program".toList].flatMap FormatPart.render)
          "zdaemon.conf".toList "server".toList "server".toList "zato".toList = ([], .error e))) :=
  have hps : ∀ p ∈ [FormatPart.lit 'p', .lit '=', .field "program".toList], p.Plain := by decide
  ⟨hps, zdaemon_start_spec (fun _ => ⟨some 0, [], []⟩) (fun _ _ => .ok ()) "/opt/zato".toList
    "zdaemon.conf".toList "server".toList "server".toList "zato".toList hps⟩

end ZatoCli
