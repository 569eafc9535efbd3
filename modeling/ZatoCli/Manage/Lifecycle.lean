import ZatoCli.Manage.Zdaemon

namespace ZatoCli

/-- A manage command on a component directory: `_zdaemon_start` with the arguments a subclass
passes it, or `_zdaemon_command` with the zdaemon command it runs on every conf file. -/
inductive ManageOp
  | start (contentsTemplate zdaemonConfName socketPrefix logfilePathPrefix program : Str)
  | command (zdaemonCommand : Str)

/-- What a manage command does outside Python: the outcome of each command line, what
`os.remove(path)` does, and what `open(path, 'w').write(text)` does. -/
structure ManageEnv where
  popen : List Str → ProcResult
  remove : Str → Except PyError Unit
  write : Str → Str → Except PyError Unit

/-- Every `zdaemon` run returns, and every removal and write succeeds. -/
structure ManageEnv.AllSucceed (env : ManageEnv) : Prop where
  run : ∀ l, ∃ pid, executeZdaemonCommand env.popen l = .ok pid
  remove : ∀ f, env.remove f = .ok ()
  write : ∀ f t, env.write f t = .ok ()

/-- A name that `os.path.join(dir, name)` puts directly into `dir`. -/
def PlainName (name : Str) : Prop := name ≠ [] ∧ '/' ∉ name

instance decidablePlainName (name : Str) : Decidable (PlainName name) :=
  inferInstanceAs (Decidable (name ≠ [] ∧ '/' ∉ name))

/-- One manage command, from the names in `config/zdaemon`: the names afterwards, and what the
command returns (`None` from `_zdaemon_start`, `ports_pids` from `_zdaemon_command`) or raises.
The conf file `_zdaemon_start` writes becomes a name of the directory when its name is plain;
the files `_zdaemon_command` passes to `os.remove` leave it, those removed before an exception
included. -/
def manageStep (env : ManageEnv) (componentDir : Str) (listing : List Str) :
    ManageOp → List Str × Except PyError (Option PortsPids)
  | .start contentsTemplate zdaemonConfName socketPrefix logfilePathPrefix program =>
    let r := zdaemonStart env.popen env.write componentDir contentsTemplate zdaemonConfName
      socketPrefix logfilePathPrefix program
    (if r.1 ≠ [] ∧ PlainName zdaemonConfName ∧ zdaemonConfName ∉ listing then
        listing ++ [zdaemonConfName]
      else listing,
      (fun _ => none) <$> r.2)
  | .command command =>
    let r := zdaemonCommand env.popen env.remove componentDir listing command
    (listing.filter fun name => pathJoin (zdaemonDir componentDir) name ∉ r.1, some <$> r.2)

/-- Manage commands run one after another on one component directory: each starts from the
files the one before left, and one that raises does not stop the next. -/
def manageRun (env : ManageEnv) (componentDir : Str) :
    List Str → List ManageOp → List Str × List (Except PyError (Option PortsPids))
  | listing, [] => (listing, [])
  | listing, op :: ops =>
    let r := manageStep env componentDir listing op
    let rest := manageRun env componentDir r.1 ops
    (rest.1, r.2 :: rest.2)

/-! ## The port-level view

What the manage commands are for: a component is started on ports, each with its conf file
`zdaemon.<port>.conf`; `status` reports the started ports and `stop` stops them all. -/

/-- A conf template `_zdaemon_start` can fill: simple fields, each one of `program`,
`socket_name` and `logfile_path`. -/
structure ConfTemplate where
  parts : List FormatPart
  plain : ∀ p ∈ parts, p.Plain
  known : ∀ name, FormatPart.field name ∈ parts →
    name ∈ ["program".toList, "socket_name".toList, "logfile_path".toList]

inductive PortOp
  | start (port : Nat) (template : ConfTemplate) (socketPrefix logfilePathPrefix program : Str)
  | status
  | stop

namespace PortOp

def toManageOp : PortOp → ManageOp
  | start port template socketPrefix logfilePathPrefix program =>
    .start (template.parts.flatMap FormatPart.render) (confName 0 port) socketPrefix
      logfilePathPrefix program
  | status => .command "status".toList
  | stop => .command "stop".toList

def ports (started : List Nat) : PortOp → List Nat
  | start port .. => started.insert port
  | status => started
  | stop => []

def Valid : PortOp → Prop
  | start port .. => 0 < port
  | _ => True

instance decidableValid : (op : PortOp) → Decidable op.Valid
  | start port .. => inferInstanceAs (Decidable (0 < port))
  | status => inferInstanceAs (Decidable True)
  | stop => inferInstanceAs (Decidable True)

end PortOp

/-- The names `listing` of `config/zdaemon` stand for the started ports `ports`: the listing is
a directory listing, and its conf files are `zdaemon.<p>.conf` for the ports, one each. -/
structure Refines (listing : List Str) (ports : List Nat) : Prop where
  nodup : listing.Nodup
  plain : ∀ x ∈ listing, '/' ∉ x
  pos : ∀ p ∈ ports, 0 < p
  portsNodup : ports.Nodup
  confs : (listing.filter (fnmatchStar "zdaemon".toList ".conf".toList)).Perm
    (ports.map (confName 0))

namespace Refines

variable {listing : List Str} {ports : List Nat}

theorem mem_confs (h : Refines listing ports) {x : Str} :
    x ∈ listing ∧ fnmatchStar "zdaemon".toList ".conf".toList x = true ↔
      ∃ p ∈ ports, confName 0 p = x := by
  rw [← List.mem_filter, h.confs.mem_iff, List.mem_map]

theorem start (h : Refines listing ports) {p : Nat} (hp : 0 < p) :
    Refines (if confName 0 p ∈ listing then listing else listing ++ [confName 0 p])
      (ports.insert p) := by
  by_cases hmem : p ∈ ports
  · have hin : confName 0 p ∈ listing := (h.mem_confs.mpr ⟨p, hmem, rfl⟩).1
    rw [if_pos hin, List.insert_of_mem hmem]
    exact h
  · have hout : confName 0 p ∉ listing := fun hin => by
      obtain ⟨q, hq, he⟩ := h.mem_confs.mp ⟨hin, confName_fnmatch 0 p⟩
      exact hmem (confName_inj he ▸ hq)
    rw [if_neg hout, List.insert_of_not_mem hmem]
    refine ⟨h.nodup.append (List.nodup_singleton _) (List.disjoint_singleton.mpr hout), ?_, ?_,
      List.nodup_cons.mpr ⟨hmem, h.portsNodup⟩, ?_⟩
    · simpa [or_imp, forall_and] using ⟨h.plain, slash_not_mem_confName 0 p⟩
    · simpa [or_imp, forall_and] using ⟨hp, h.pos⟩
    · rw [List.filter_append, List.filter_singleton, confName_fnmatch, cond_true, List.map_cons]
      exact List.perm_append_singleton _ _ |>.trans (h.confs.cons _)

theorem stop (h : Refines listing ports) :
    Refines (listing.filter fun x => ¬fnmatchStar "zdaemon".toList ".conf".toList x = true) [] :=
  ⟨h.nodup.filter _, fun x hx => h.plain x (List.mem_of_mem_filter hx), by simp, List.nodup_nil,
    by rw [List.filter_filter]; simp⟩

end Refines

section Steps

variable {env : ManageEnv} {d : Str}

theorem pathJoin_mem_zdaemonConfFiles {listing : List Str} (hplain : ∀ x ∈ listing, '/' ∉ x)
    {x : Str} (hx : '/' ∉ x) :
    pathJoin (zdaemonDir d) x ∈ zdaemonConfFiles d listing ↔
      x ∈ listing ∧ fnmatchStar "zdaemon".toList ".conf".toList x = true := by
  have head : ∀ {y : Str}, '/' ∉ y → y.head? ≠ some '/' := fun hy h =>
    hy (List.mem_of_mem_head? h)
  rw [zdaemonConfFiles, (List.perm_insertionSort _ _).mem_iff, List.mem_map]
  constructor
  · rintro ⟨y, hy, he⟩
    have hy' := List.mem_filter.mp hy
    rwa [(pathJoin_inj (head (hplain y hy'.1)) (head hx)).mp he] at hy'
  · exact fun hx' => ⟨x, List.mem_filter.mpr hx', rfl⟩

theorem manageStep_start (henv : env.AllSucceed) (listing : List Str) (p : Nat) (t : ConfTemplate)
    (socketPrefix logfilePathPrefix program : Str) :
    manageStep env d listing
        (PortOp.start p t socketPrefix logfilePathPrefix program).toManageOp =
      (if confName 0 p ∈ listing then listing else listing ++ [confName 0 p], .ok none) := by
  obtain ⟨conf, -, hstart, -⟩ := zdaemonStart_of_known_fields env.popen env.write d (confName 0 p)
    socketPrefix logfilePathPrefix program t.plain t.known
  obtain ⟨pid, hpid⟩ :=
    henv.run (zdaemonCommandList (pathJoin (zdaemonDir d) (confName 0 p)) "start".toList)
  have hplain : PlainName (confName 0 p) := ⟨by simp [confName], slash_not_mem_confName 0 p⟩
  rw [PortOp.toManageOp, manageStep]
  simp only [hstart (henv.write _ _), hpid]
  by_cases hin : confName 0 p ∈ listing <;> simp [hin, hplain, Functor.map, Except.map]

theorem manageStep_command (hd : '.' ∉ d) (henv : env.AllSucceed)
    {listing : List Str} {ports : List Nat} (h : Refines listing ports) (command : Str) :
    ∃ r, manageStep env d listing (.command command) =
        (if command = "stop".toList then
          listing.filter fun x => ¬fnmatchStar "zdaemon".toList ".conf".toList x = true
        else listing, .ok (some r)) ∧
      r.keys.Perm (ports.map decimal) ∧
      ∀ p ∈ ports, ∃ pid, r.lookup (decimal p) = some pid ∧
        executeZdaemonCommand env.popen
          (zdaemonCommandList (pathJoin (zdaemonDir d) (confName 0 p)) command) = .ok pid := by
  let files := ports.map fun p => (0, p)
  have hconfs : (listing.filter (fnmatchStar "zdaemon".toList ".conf".toList)).Perm
      (files.map fun f => confName f.1 f.2) := by
    rw [List.map_map]
    exact h.confs
  let pid : Str → Option Str :=
    fun f => Classical.choose (henv.run (zdaemonCommandList f command))
  have hpid : ∀ f, executeZdaemonCommand env.popen (zdaemonCommandList f command) = .ok (pid f) :=
    fun f => Classical.choose_spec (henv.run _)
  obtain ⟨r, hr, hkeys, hlook⟩ := zdaemonCommand_of_confNames env.popen env.remove d command hd
    listing files hconfs (by simpa [files] using h.pos)
    (by simpa [files, List.map_map] using h.portsNodup) pid (fun f _ => hpid _)
    fun _ _ _ => henv.remove _
  refine ⟨r, ?_, by simpa [files, List.map_map] using hkeys,
    fun p hp => ⟨_, hlook (0, p) (List.mem_map_of_mem _ hp), hpid _⟩⟩
  rw [manageStep]
  simp only [hr]
  split_ifs
  · refine Prod.ext (List.filter_congr fun x hx => ?_) rfl
    simp [pathJoin_mem_zdaemonConfFiles h.plain (h.plain x hx), hx]
  · simp [Functor.map, Except.map]

/-- One port-level command keeps the refinement and returns. -/
theorem manageStep_refines (hd : '.' ∉ d) (henv : env.AllSucceed)
    {listing : List Str} {ports : List Nat} (h : Refines listing ports) {op : PortOp}
    (hop : op.Valid) :
    Refines (manageStep env d listing op.toManageOp).1 (op.ports ports) ∧
      ∃ v, (manageStep env d listing op.toManageOp).2 = .ok v := by
  cases op with
  | start p t socketPrefix logfilePathPrefix program =>
    rw [manageStep_start henv]
    exact ⟨h.start hop, _, rfl⟩
  | status =>
    obtain ⟨r, hr, -⟩ := manageStep_command hd henv h "status".toList
    rw [PortOp.toManageOp, hr, if_neg (by decide)]
    exact ⟨h, _, rfl⟩
  | stop =>
    obtain ⟨r, hr, -⟩ := manageStep_command hd henv h "stop".toList
    rw [PortOp.toManageOp, hr, if_pos rfl]
    exact ⟨h.stop, _, rfl⟩

/-- A run of port-level commands keeps the refinement, and every command of it returns. -/
theorem manageRun_refines (hd : '.' ∉ d) (henv : env.AllSucceed) :
    ∀ (ops : List PortOp) {listing : List Str} {ports : List Nat}, (∀ op ∈ ops, op.Valid) →
      Refines listing ports →
      Refines (manageRun env d listing (ops.map PortOp.toManageOp)).1
          (ops.foldl PortOp.ports ports) ∧
        ∀ o ∈ (manageRun env d listing (ops.map PortOp.toManageOp)).2, ∃ v, o = .ok v
  | [], _, _, _, h => ⟨h, by simp [manageRun]⟩
  | op :: ops, _, _, hv, h => by
    obtain ⟨h', v, hv'⟩ := manageStep_refines hd henv h (hv op (List.mem_cons_self _ _))
    obtain ⟨hr, hout⟩ :=
      manageRun_refines hd henv ops (fun o ho => hv o (List.mem_cons_of_mem _ ho)) h'
    refine ⟨hr, ?_⟩
    simp only [List.map_cons, manageRun, List.mem_cons]
    rintro o (rfl | ho)
    · exact ⟨v, hv'⟩
    · exact hout o ho

end Steps

/-- Over any run of manage commands that start the component on positive ports and run `status`
and `stop`, in a component directory with no `.` and none of glob's magic characters, with every
`zdaemon` run returning and every removal and write succeeding, from names of `config/zdaemon`
that stand for some started ports: every command returns, the conf files left are
`zdaemon.<p>.conf` for exactly the ports the abstract run has started since its last `stop`, and
`status` then reports exactly those ports, each with the pid that `zdaemon status` returned for
its conf file. -/
theorem manage_status_reports_started_ports (env : ManageEnv) {d : Str} (hd : '.' ∉ d)
    (_ : GlobLiteral d) (henv : env.AllSucceed) (ops : List PortOp)
    (hops : ∀ op ∈ ops, op.Valid) {listing : List Str} {ports : List Nat}
    (h : Refines listing ports) :
    (∀ o ∈ (manageRun env d listing (ops.map PortOp.toManageOp)).2, ∃ v, o = .ok v) ∧
    Refines (manageRun env d listing (ops.map PortOp.toManageOp)).1
      (ops.foldl PortOp.ports ports) ∧
    ∃ r, (manageStep env d (manageRun env d listing (ops.map PortOp.toManageOp)).1
        (.command "status".toList)).2 = .ok (some r) ∧
      r.keys.Perm ((ops.foldl PortOp.ports ports).map decimal) ∧
      ∀ p ∈ ops.foldl PortOp.ports ports, ∃ pid, r.lookup (decimal p) = some pid ∧
        executeZdaemonCommand env.popen
          (zdaemonCommandList (pathJoin (zdaemonDir d) (confName 0 p)) "status".toList) =
            .ok pid := by
  obtain ⟨hr, hout⟩ := manageRun_refines hd henv ops hops h
  obtain ⟨r, hstep, hkeys, hlook⟩ := manageStep_command hd henv hr "status".toList
  exact ⟨hout, hr, r, by rw [hstep], hkeys, hlook⟩

def sampleConf : ConfTemplate :=
  ⟨[.lit 'p', .lit '=', .field "program".toList], by decide, fun name h => by
    simp only [List.mem_cons, reduceCtorEq, FormatPart.field.injEq, false_or, List.mem_nil_iff,
      or_false] at h
    subst h
    decide⟩

def sampleOps : List PortOp :=
  [.start 17010 sampleConf [] [] [], .status, .stop, .start 17011 sampleConf [] [] [],
    .start 17010 sampleConf [] [] []]

def sampleManageEnv : ManageEnv :=
  ⟨fun _ => ⟨some 0, "program running; pid=7".toList, []⟩, fun _ => .ok (), fun _ _ => .ok ()⟩

theorem manage_status_reports_started_ports_witness :
    '.' ∉ "/opt/zato".toList ∧ GlobLiteral "/opt/zato".toList ∧ sampleManageEnv.AllSucceed ∧
    (∀ op ∈ sampleOps, op.Valid) ∧ Refines [] [] ∧
    (∀ o ∈ (manageRun sampleManageEnv "/opt/zato".toList [] (sampleOps.map PortOp.toManageOp)).2,
      ∃ v, o = .ok v) ∧
    Refines (manageRun sampleManageEnv "/opt/zato".toList [] (sampleOps.map PortOp.toManageOp)).1
      (sampleOps.foldl PortOp.ports []) ∧
    ∃ r, (manageStep sampleManageEnv "/opt/zato".toList
        (manageRun sampleManageEnv "/opt/zato".toList [] (sampleOps.map PortOp.toManageOp)).1
        (.command "status".toList)).2 = .ok (some r) ∧
      r.keys.Perm ((sampleOps.foldl PortOp.ports []).map decimal) ∧
      ∀ p ∈ sampleOps.foldl PortOp.ports [], ∃ pid, r.lookup (decimal p) = some pid ∧
        executeZdaemonCommand sampleManageEnv.popen
          (zdaemonCommandList (pathJoin (zdaemonDir "/opt/zato".toList) (confName 0 p))
            "status".toList) = .ok pid := by
  have henv : sampleManageEnv.AllSucceed := ⟨fun _ => ⟨_, rfl⟩, fun _ => rfl, fun _ _ => rfl⟩
  have hops : ∀ op ∈ sampleOps, op.Valid := by decide
  have h : Refines [] [] := ⟨List.nodup_nil, by simp, by simp, List.nodup_nil, by simp⟩
  exact ⟨by decide, by decide, henv, hops, h,
    manage_status_reports_started_ports _ (by decide) (by decide) henv _ hops h⟩

end ZatoCli
