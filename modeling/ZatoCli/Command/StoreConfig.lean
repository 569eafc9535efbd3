import ZatoCli.Python.Format

namespace ZatoCli

def configLine (arg : Str) (value : PyObj) : Str := arg ++ '=' :: value.format ++ ['\n']

/-- The `for arg, value in args._get_kwargs()` loop of `ZatoCommand.store_config`. -/
def fileArgs : List (Str × PyObj) → Str
  | [] => []
  | (arg, value) :: rest => (if value.truthy then configLine arg value else []) ++ fileArgs rest

/-- `ZatoCommand.store_config`: the name and the body of the file it writes; `now` is
`fs_safe_now()` and `userHost` is `_get_user_host()`. -/
def storeConfig (now userHost : Str) (args : Namespace) : Str × Str :=
  ("zato.".toList ++ now ++ ".config".toList,
    "# ".toList ++ now ++ " - ".toList ++ userHost ++ '\n' :: fileArgs (getKwargs args))

/-- The part of `ZatoCommand.__init__` that reads `args`: the config file it writes, if any. -/
def zatoCommandInit (now userHost : Str) (args : Namespace) :
    Except PyError (Option (Str × Str)) := do
  let _ ← args.getattr "verbose".toList
  let _ ← args.getattr "store_log".toList
  let storeConfigFlag ← args.getattr "store_config".toList
  pure (if storeConfigFlag.truthy then some (storeConfig now userHost args) else none)

/-- One pass of the `for line in f` loop of `FromConfigFile.execute`: the `setattr` it makes,
none on a comment line. -/
def readConfigLine (line : Str) : Except PyError (Option (Str × Str)) :=
  if startswith (lstrip whitespace line) "#".toList then .ok none
  else match splitOnce '=' line with
    | [arg, value] => .ok (some (strip whitespace arg, strip whitespace value))
    | _ => .error (.unpackError line)

def readConfig : List Str → Except PyError (List (Str × Str))
  | [] => .ok []
  | line :: rest => do
    let set ← readConfigLine line
    let sets ← readConfig rest
    pure (set.toList ++ sets)

def setattrs (args : Namespace) (sets : List (Str × Str)) : Namespace :=
  sets.foldl (fun args set => args.insert set.1 (.str set.2)) args

/-- The line loop of `FromConfigFile.execute` on a file holding `text`. -/
def fromConfigFile (args : Namespace) (text : Str) : Except PyError Namespace :=
  (readConfig (lines text)).map (setattrs args)

/-- An `argparse` dest as the config file can carry it: no `=`, no whitespace, no leading `#`. -/
def ArgName (arg : Str) : Prop :=
  '=' ∉ arg ∧ (∀ c ∈ arg, c ∉ whitespace) ∧ arg.head? ≠ some '#'

/-- What the reader makes of the options `store_config` writes from `kwargs`. -/
def storedSets (kwargs : List (Str × PyObj)) : List (Str × Str) :=
  kwargs.filterMap fun p => if p.2.truthy then some (p.1, strip whitespace p.2.format) else none

/-- The texts `store_config` writes are what its format strings `'zato.{}.config'`, `'{}={}\n'`
and `'# {} - {}\n{}'` make of their arguments. -/
theorem storeConfig_eq_strFormat (now userHost : Str) (args : Namespace)
    (kwargs : Str → Option PyObj) :
    strFormat "zato.\x7b\x7d.config".toList [.str now] kwargs =
      .ok (storeConfig now userHost args).1 ∧
    (∀ arg value, strFormat "\x7b\x7d=\x7b\x7d\n".toList [.str arg, value] kwargs =
      .ok (configLine arg value)) ∧
    strFormat "# \x7b\x7d - \x7b\x7d\n\x7b\x7d".toList
        [.str now, .str userHost, .str (fileArgs (getKwargs args))] kwargs =
      .ok (storeConfig now userHost args).2 :=
  ⟨rfl, fun _ _ => by rw [configLine, List.append_assoc]; rfl,
    by simp [strFormat, formatFrom, renderField_simple (List.forall_mem_nil _), getField, pyIndex,
      storeConfig]⟩

theorem readConfig_cons_none {line : Str} (h : readConfigLine line = .ok none) (rest : List Str) :
    readConfig (line :: rest) = readConfig rest := by
  simp only [readConfig, h]
  cases readConfig rest <;> rfl

theorem readConfigLine_header (text : Str) :
    readConfigLine ('#' :: text) = .ok none := by
  simp [readConfigLine, lstrip_cons_of_not_mem (show '#' ∉ whitespace by decide), startswith]

theorem readConfigLine_configLine {arg : Str} (ha : ArgName arg) (value : PyObj) :
    readConfigLine (configLine arg value) = .ok (some (arg, strip whitespace value.format)) := by
  obtain ⟨heq, hws, hhash⟩ := ha
  have hkeep : lstrip whitespace (configLine arg value) = configLine arg value := by
    cases arg with
    | nil => exact lstrip_cons_of_not_mem (by decide) _
    | cons c cs => exact lstrip_cons_of_not_mem (hws c (List.mem_cons_self c cs)) _
  have hcomment : startswith (configLine arg value) "#".toList = false := by
    cases arg with
    | nil => rfl
    | cons c cs =>
      have hc : c ≠ '#' := fun h => hhash (by simp [h])
      simp [startswith, configLine, List.isPrefixOf, hc.symm]
  rw [readConfigLine, hkeep, hcomment, if_neg Bool.false_ne_true, configLine,
    List.append_assoc, List.cons_append, splitOnce_append heq]
  simp only [strip_eq_self hws, strip_append_of_mem _ (show '\n' ∈ whitespace by decide)]

theorem readConfig_fileArgs (kwargs : List (Str × PyObj)) (hk : ∀ p ∈ kwargs, ArgName p.1)
    (hv : ∀ p ∈ kwargs, p.2.truthy → '\n' ∉ p.2.format) :
    readConfig (lines (fileArgs kwargs)) = .ok (storedSets kwargs) := by
  induction kwargs with
  | nil => rfl
  | cons p rest ih =>
    obtain ⟨arg, value⟩ := p
    have ih' := ih (fun q hq => hk q (List.mem_cons_of_mem _ hq))
      (fun q hq => hv q (List.mem_cons_of_mem _ hq))
    by_cases ht : value.truthy
    · have hline := readConfigLine_configLine (hk _ (List.mem_cons_self _ _)) value
      have hnl : '\n' ∉ arg ++ '=' :: value.format := by
        simp only [List.mem_append, List.mem_cons, not_or]
        exact ⟨fun h => (hk _ (List.mem_cons_self _ _)).2.1 _ h (by decide), by decide,
          hv _ (List.mem_cons_self _ _) ht⟩
      have hsplit : configLine arg value ++ fileArgs rest =
          (arg ++ '=' :: value.format) ++ '\n' :: fileArgs rest := by simp [configLine]
      rw [fileArgs, if_pos ht, hsplit, lines_append hnl, readConfig]
      change (do let set ← readConfigLine (configLine arg value); _) = _
      simp [hline, ih', storedSets, ht]
    · simpa [fileArgs, ht, storedSets] using ih'

theorem readConfig_storeConfig {now userHost : Str} {args : Namespace}
    (hnow : '\n' ∉ now) (huser : '\n' ∉ userHost) (hnames : ∀ arg ∈ args.keys, ArgName arg)
    (hvalues : ∀ arg value, args.lookup arg = some value → value.truthy →
      '\n' ∉ value.format) :
    readConfig (lines (storeConfig now userHost args).2) = .ok (storedSets (getKwargs args)) := by
  have hheader : '\n' ∉ "# ".toList ++ now ++ " - ".toList ++ userHost := by
    simp [hnow, huser]
  have hk : ∀ p ∈ getKwargs args, ArgName p.1 := fun p hp =>
    hnames _ (AList.mem_keys.mp (AList.lookup_isSome.mp (by simp [mem_getKwargs.mp hp])))
  have hv : ∀ p ∈ getKwargs args, p.2.truthy → '\n' ∉ p.2.format := fun p hp =>
    hvalues _ _ (mem_getKwargs.mp hp)
  have hskip :
      readConfigLine ("# ".toList ++ now ++ " - ".toList ++ userHost ++ ['\n']) = .ok none :=
    readConfigLine_header _
  rw [storeConfig, lines_append hheader, readConfig_cons_none hskip]
  exact readConfig_fileArgs _ hk hv

theorem mem_storedSets {kwargs : List (Str × PyObj)} {arg s : Str} :
    (arg, s) ∈ storedSets kwargs ↔
      ∃ value, (arg, value) ∈ kwargs ∧ value.truthy ∧
        s = strip whitespace value.format := by
  simp only [storedSets, List.mem_filterMap]
  constructor
  · rintro ⟨⟨a, v⟩, hmem, h⟩
    split_ifs at h with ht
    cases h
    exact ⟨v, hmem, ht, rfl⟩
  · rintro ⟨v, hmem, ht, rfl⟩
    exact ⟨(arg, v), hmem, by simp [ht]⟩

theorem storedSets_keys_sublist (kwargs : List (Str × PyObj)) :
    ((storedSets kwargs).map Prod.fst).Sublist (kwargs.map Prod.fst) := by
  induction kwargs with
  | nil => exact List.Sublist.slnil
  | cons p kwargs ih =>
    by_cases ht : p.2.truthy
    · simpa [storedSets, ht] using ih
    · simpa [storedSets, ht] using ih.cons p.1

theorem getKwargs_keys_perm (args : Namespace) :
    ((getKwargs args).map Prod.fst).Perm args.keys := by
  have h := (List.perm_insertionSort (fun a b => strLe a.1 b.1 = true)
    (args.entries.map fun e => (e.1, e.2))).map Prod.fst
  rw [List.map_map] at h
  exact h

theorem lookup_setattrs_of_not_mem {name : Str} :
    ∀ {sets : List (Str × Str)} {args : Namespace}, name ∉ sets.map Prod.fst →
      (setattrs args sets).lookup name = args.lookup name
  | [], _, _ => rfl
  | (a, s) :: sets, args, h => by
    rw [List.map_cons, List.mem_cons, not_or] at h
    exact (lookup_setattrs_of_not_mem h.2).trans (AList.lookup_insert_ne h.1)

theorem lookup_setattrs_of_mem {name s : Str} :
    ∀ {sets : List (Str × Str)} {args : Namespace}, (sets.map Prod.fst).Nodup →
      (name, s) ∈ sets →
      (setattrs args sets).lookup name = some (.str s)
  | [], _, _, h => absurd h (List.not_mem_nil _)
  | (a, s') :: sets, args, hnd, h => by
    change (setattrs (args.insert a (.str s')) sets).lookup name = _
    rw [List.map_cons, List.nodup_cons] at hnd
    rcases List.mem_cons.mp h with h | h
    · cases h
      exact (lookup_setattrs_of_not_mem hnd.1).trans (AList.lookup_insert _)
    · exact lookup_setattrs_of_mem hnd.2 h

/-- Reading back what `store_config` wrote: the header is skipped, the truthy attributes are set
in sorted order to their string forms with surrounding whitespace stripped, and no other
attribute of the namespace read into changes. -/
theorem store_config_round_trip (now userHost : Str) (args : Namespace)
    (hnow : '\n' ∉ now) (huser : '\n' ∉ userHost) (hnames : ∀ arg ∈ args.keys, ArgName arg)
    (hvalues : ∀ arg value, args.lookup arg = some value → value.truthy →
      '\n' ∉ value.format) :
    readConfig (lines (storeConfig now userHost args).2) = .ok (storedSets (getKwargs args)) ∧
    ∀ target : Namespace,
      ∃ t, fromConfigFile target (storeConfig now userHost args).2 = .ok t ∧
        (∀ arg value, args.lookup arg = some value → value.truthy →
          t.lookup arg = some (.str (strip whitespace value.format))) ∧
        ∀ arg, args.truthyAt arg = false → t.lookup arg = target.lookup arg := by
  have hread := readConfig_storeConfig hnow huser hnames hvalues
  have hnd : ((storedSets (getKwargs args)).map Prod.fst).Nodup :=
    (storedSets_keys_sublist _).nodup ((getKwargs_keys_perm args).nodup_iff.mpr args.nodupKeys)
  refine ⟨hread, fun target => ⟨_, by rw [fromConfigFile, hread]; rfl, ?_, ?_⟩⟩
  · intro arg value hv ht
    exact lookup_setattrs_of_mem hnd (mem_storedSets.mpr ⟨value, mem_getKwargs.mpr hv, ht, rfl⟩)
  · intro arg hf
    refine lookup_setattrs_of_not_mem fun hmem => ?_
    obtain ⟨⟨a, s⟩, hs, rfl⟩ := List.mem_map.mp hmem
    obtain ⟨v, hv, ht, -⟩ := mem_storedSets.mp hs
    simp [Namespace.truthyAt, mem_getKwargs.mp hv, ht] at hf

def sampleArgs : Namespace :=
  ((((∅ : Namespace).insert "verbose".toList (.bool false)).insert "odb_password".toList
    (.str "secret ".toList)).insert "odb_host".toList (.str "localhost".toList)).insert
      "odb_port".toList .none

theorem store_config_round_trip_witness :
    '\n' ∉ "2013-01-01_00-00-00".toList ∧ '\n' ∉ "zato@localhost".toList ∧
    (∀ arg ∈ sampleArgs.keys, ArgName arg) ∧
    (∀ arg value, sampleArgs.lookup arg = some value → value.truthy → '\n' ∉ value.format) ∧
    storedSets (getKwargs sampleArgs) =
      [("odb_host".toList, "localhost".toList), ("odb_password".toList, "secret".toList)] ∧
    readConfig (lines (storeConfig "2013-01-01_00-00-00".toList "zato@localhost".toList
        sampleArgs).2) = .ok (storedSets (getKwargs sampleArgs)) ∧
    ∀ target : Namespace, ∃ t, fromConfigFile target (storeConfig "2013-01-01_00-00-00".toList
        "zato@localhost".toList sampleArgs).2 = .ok t ∧
      (∀ arg value, sampleArgs.lookup arg = some value → value.truthy →
        t.lookup arg = some (.str (strip whitespace value.format))) ∧
      ∀ arg, sampleArgs.truthyAt arg = false → t.lookup arg = target.lookup arg := by
  have hkw : getKwargs sampleArgs =
      [("odb_host".toList, .str "localhost".toList), ("odb_password".toList, .str "secret ".toList),
        ("odb_port".toList, .none), ("verbose".toList, .bool false)] := by decide
  have hnames : ∀ arg ∈ sampleArgs.keys, ArgName arg := by
    simp only [ArgName]
    decide
  have hvalues : ∀ arg value, sampleArgs.lookup arg = some value → value.truthy →
      '\n' ∉ value.format := by
    intro arg value h _
    have hmem := mem_getKwargs.mpr h
    rw [hkw] at hmem
    simp only [List.mem_cons, Prod.mk.injEq, List.not_mem_nil, or_false] at hmem
    rcases hmem with ⟨-, rfl⟩ | ⟨-, rfl⟩ | ⟨-, rfl⟩ | ⟨-, rfl⟩ <;> decide
  exact ⟨by decide, by decide, hnames, hvalues, by rw [hkw]; decide,
    store_config_round_trip _ _ _ (by decide) (by decide) hnames hvalues⟩

/-- A value with a trailing blank is written as is and read back without it. -/
theorem store_config_trailing_blank_lost :
    readConfig (lines (storeConfig "2013-01-01_00-00-00".toList "zato@localhost".toList
      (AList.singleton "odb_password".toList (.str "secret ".toList))).2) ≠
      .ok [("odb_password".toList, (PyObj.str "secret ".toList).format)] := by
  decide

section Execute

variable {readFile : PyObj → Except PyError Str}

end Execute

end ZatoCli
