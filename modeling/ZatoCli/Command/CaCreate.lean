import Mathlib.Data.List.Infix
import ZatoCli.Python.Format

namespace ZatoCli

def caDefaults : List (Str × Str) :=
  [("organization".toList, "My Company".toList),
   ("organizational_unit".toList, "My Unit".toList),
   ("locality".toList, "My Town".toList),
   ("state_or_province".toList, "My State".toList),
   ("country".toList, "US".toList)]

def caDefault (key : Str) : Str := (caDefaults.lookup key).getD []

def defaultCommonName : Str := "localhost".toList

/-- `ZatoCommand._get_arg`: the attribute when it is set to a true value, else the default. -/
def getArg (args : Namespace) (name : Str) (default : PyObj) : PyObj :=
  match args.lookup name with
  | some value => if value.truthy then value else default
  | none => default

namespace CACreateCommand

/-- What `_execute` reads besides `args` and `extension`: `self.target_dir`, `self._get_now()`,
the subclass's `get_organizational_unit(args)` and `get_file_prefix(file_args)`, the text of
`ca-material/openssl-template.conf`, the `name` of `tempfile.NamedTemporaryFile()`, the text
`openssl req` leaves in `csr_name`, the text of `ca-material/ca-serial.old`, what writing a text
to a path and `os.remove(path)` do, and `self.verbose`. Each file operation may raise. -/
structure Env where
  targetDir : Str
  now : Str
  organizationalUnit : PyObj
  getFilePrefix : List (Str × PyObj) → PyObj
  opensslTemplate : Except PyError Str
  tempFile : Except PyError Str
  csrOutput : Except PyError Str
  caSerialOld : Except PyError Str
  write : Str → Str → Except PyError Unit
  remove : Str → Except PyError Unit
  verbose : Bool

/-- What `_execute` leaves behind: the text written to the temporary config file, the command
lines given to `os.system`, the files written (path and text), the file removed, the line
logged, and the `format_args` it returns. -/
structure Outcome where
  config : Str
  commands : List Str
  written : List (Str × Str)
  removed : Str
  log : Str
  formatArgs : List (Str × PyObj)

/-- The template fields `_execute` takes from `args` through `_get_arg`, each with its
default. -/
def templateDefaults (organizationalUnit : PyObj) : List (Str × PyObj) :=
  [("common_name".toList, .str defaultCommonName),
   ("organization".toList, .str (caDefault "organization".toList)),
   ("organizational_unit".toList, organizationalUnit),
   ("locality".toList, .str (caDefault "locality".toList)),
   ("state_or_province".toList, .str (caDefault "state_or_province".toList)),
   ("country".toList, .str (caDefault "country".toList))]

def templateArgs (args : Namespace) (organizationalUnit : PyObj) (targetDir : Str) :
    List (Str × PyObj) :=
  (templateDefaults organizationalUnit).map (fun f => (f.1, getArg args f.1 f.2)) ++
    [("target_dir".toList, .str targetDir)]

/-- `file_args` before `file_prefix` is set: `now`, `target_dir`, and `cluster_name` and
`server_name` where `args` has them. -/
def fileArgs (args : Namespace) (now targetDir : Str) : List (Str × PyObj) :=
  [("now".toList, .str now), ("target_dir".toList, .str targetDir)] ++
    ["cluster_name".toList, "server_name".toList].filterMap fun arg =>
      (args.lookup arg).map fun value => (arg, value)

/-- The template `'{target_dir}/out-<kind>/{file_prefix}-<kind>-{now}.pem'` of the output file
of `kind`. -/
def outName (kind : Str) : Str :=
  "\x7btarget_dir\x7d/out-".toList ++ kind ++ "/\x7bfile_prefix\x7d-".toList ++ kind ++
    "-\x7bnow\x7d.pem".toList

/-- The `openssl req` command template; each line break after a backslash is dropped, and the
blank before it and the next line's indentation stay. -/
def reqCommand : Str :=
  (List.replicate 19 ' ').intercalate
    ["openssl req -batch -new -nodes -extensions \x7bextension\x7d".toList,
     "-out \x7bcsr_name\x7d".toList, "-keyout \x7bpriv_key_name\x7d".toList, "-pubkey".toList,
     "-newkey rsa:2048 -config \x7bconfig\x7d >/dev/null 2>&1".toList]

def caCommand : Str :=
  (List.replicate 18 ' ').intercalate
    ["openssl ca -batch -passin file:\x7btarget_dir\x7d/ca-material/ca-password".toList ++
       " -config \x7bconfig\x7d".toList,
     "-out \x7bcert_name\x7d".toList, "-extensions \x7bextension\x7d".toList,
     "-in \x7bcsr_name\x7d".toList, ">/dev/null 2>&1".toList]

def splitLine : Str := "-----END PUBLIC KEY-----".toList

def doneMessage : Str :=
  "Crypto material generated and saved in:\n  - private key: \x7bpriv_key_name\x7d\n".toList ++
    "  - public key: \x7bpub_key_name\x7d\n  - certificate \x7bcert_name\x7d\n".toList ++
    "  - CSR: \x7bcsr_name\x7d".toList

/-- The public key and the CSR that `_execute` cuts the `openssl req` output into: `csr_pub`,
`pub` and `csr`. -/
def splitCsr (csrOutput : Str) : Except PyError (Str × Str) := do
  let csrPub ← strSplit splitLine csrOutput
  let pub := (← pyIndex csrPub 0) ++ splitLine
  let csr := lstrip whitespace (← pyIndex csrPub 1)
  pure (pub, csr)

def formatArgs (config extension csrName privKeyName pubKeyName certName targetDir : Str) :
    List (Str × PyObj) :=
  [("config".toList, .str config), ("extension".toList, .str extension),
   ("csr_name".toList, .str csrName), ("priv_key_name".toList, .str privKeyName),
   ("pub_key_name".toList, .str pubKeyName), ("cert_name".toList, .str certName),
   ("target_dir".toList, .str targetDir)]

/-- `CACreateCommand._execute(args, extension)`. -/
def execute (env : Env) (args : Namespace) (extension : Str) : Except PyError Outcome := do
  let opensslTemplate ← env.opensslTemplate
  let templateArgs := templateArgs args env.organizationalUnit env.targetDir
  let tempName ← env.tempFile
  let config ← strFormat opensslTemplate [] fun k => templateArgs.lookup k
  env.write tempName config
  let fileArgs₀ := fileArgs args env.now env.targetDir
  let fileArgs := ("file_prefix".toList, env.getFilePrefix fileArgs₀) :: fileArgs₀
  let csrName ← strFormat (outName "csr".toList) [] fun k => fileArgs.lookup k
  let privKeyName ← strFormat (outName "priv".toList) [] fun k => fileArgs.lookup k
  let pubKeyName ← strFormat (outName "pub".toList) [] fun k => fileArgs.lookup k
  let certName ← strFormat (outName "cert".toList) [] fun k => fileArgs.lookup k
  let formatArgs :=
    formatArgs tempName extension csrName privKeyName pubKeyName certName env.targetDir
  let reqCmd ← strFormat reqCommand [] fun k => formatArgs.lookup k
  let (pub, csr) ← splitCsr (← env.csrOutput)
  env.write csrName csr
  env.write pubKeyName pub
  let caCmd ← strFormat caCommand [] fun k => formatArgs.lookup k
  let lastSerial := strip whitespace (← env.caSerialOld)
  let removed := pathJoin env.targetDir (lastSerial ++ ".pem".toList)
  env.remove removed
  let msg ← strFormat doneMessage [] fun k => formatArgs.lookup k
  pure ⟨config, [reqCmd, caCmd], [(csrName, csr), (pubKeyName, pub)], removed,
    if env.verbose then msg else "OK".toList, formatArgs⟩

/-- The path of the output file of `kind`: `<target_dir>/out-<kind>/<prefix>-<kind>-<now>.pem`. -/
def outPath (targetDir filePrefix now kind : Str) : Str :=
  targetDir ++ "/out-".toList ++ kind ++ '/' :: filePrefix ++ '-' :: kind ++ '-' :: now ++
    ".pem".toList

def outputKinds : List Str := ["csr".toList, "priv".toList, "pub".toList, "cert".toList]

def Env.outputPath (env : Env) (args : Namespace) (kind : Str) : Str :=
  outPath env.targetDir (env.getFilePrefix (fileArgs args env.now env.targetDir)).format env.now
    kind

theorem outPath_inj {targetDir filePrefix now k₁ k₂ : Str} (h₁ : '/' ∉ k₁) (h₂ : '/' ∉ k₂)
    (h : outPath targetDir filePrefix now k₁ = outPath targetDir filePrefix now k₂) :
    k₁ = k₂ := by
  simp only [outPath, List.append_assoc, List.cons_append, List.append_cancel_left_eq] at h
  exact eq_of_append_slash h₁ h₂ h

theorem outPath_eq (targetDir filePrefix now kind : Str) :
    outPath targetDir filePrefix now kind = targetDir ++ '/' :: ("out-".toList ++ kind ++
      '/' :: (filePrefix ++ '-' :: kind ++ '-' :: now ++ ".pem".toList)) := by
  simp only [outPath, List.append_assoc, List.cons_append]
  rfl

theorem lookup_fileArgs (args : Namespace) (now targetDir : Str) (p : PyObj) :
    (("file_prefix".toList, p) :: fileArgs args now targetDir).lookup "target_dir".toList =
      some (.str targetDir) ∧
    (("file_prefix".toList, p) :: fileArgs args now targetDir).lookup "file_prefix".toList =
      some p ∧
    (("file_prefix".toList, p) :: fileArgs args now targetDir).lookup "now".toList =
      some (.str now) := by
  simp [fileArgs, List.lookup_cons]

theorem strFormat_outName (kind : Str) (h1 : '{' ∉ kind) (h2 : '}' ∉ kind) {args : Namespace}
    {now targetDir : Str} {p : PyObj} :
    strFormat (outName kind) []
        (fun k => (("file_prefix".toList, p) :: fileArgs args now targetDir).lookup k) =
      .ok (outPath targetDir p.format now kind) := by
  obtain ⟨ht, hp, hn⟩ := lookup_fileArgs args now targetDir p
  have hname : outName kind = '{' :: ("target_dir".toList ++ '}' ::
      (("/out-".toList ++ kind ++ ['/']) ++ '{' :: ("file_prefix".toList ++ '}' ::
        (("-".toList ++ kind ++ ['-']) ++ '{' ::
          ("now".toList ++ '}' :: (".pem".toList ++ [])))))) := by
    simp [outName]
  have hk1 : ∀ l r : Str, '{' ∉ l → '{' ∉ r → '{' ∉ l ++ kind ++ r := by simp_all
  have hk2 : ∀ l r : Str, '}' ∉ l → '}' ∉ r → '}' ∉ l ++ kind ++ r := by simp_all
  rw [strFormat, hname, formatFrom_field (by decide), getField_keyword (by decide) ht,
    ok_bind]
  dsimp only
  rw [formatFrom_plain_append (hk1 _ _ (by decide) (by decide)) (hk2 _ _ (by decide) (by decide)),
    formatFrom_field (by decide), getField_keyword (by decide) hp, ok_bind]
  dsimp only
  rw [formatFrom_plain_append (hk1 _ _ (by decide) (by decide)) (hk2 _ _ (by decide) (by decide)),
    formatFrom_field (by decide), getField_keyword (by decide) hn, ok_bind]
  dsimp only
  rw [formatFrom_plain_append (by decide) (by decide)]
  simp [outPath, formatFrom, Functor.map, Except.map]

set_option maxRecDepth 4000 in
theorem strFormat_formatArgs_ok (config extension csrName privKeyName pubKeyName certName
    targetDir : Str) :
    (∃ s, strFormat reqCommand [] (fun k => (formatArgs config extension csrName privKeyName
      pubKeyName certName targetDir).lookup k) = .ok s) ∧
    (∃ s, strFormat caCommand [] (fun k => (formatArgs config extension csrName privKeyName
      pubKeyName certName targetDir).lookup k) = .ok s) ∧
    (∃ s, strFormat doneMessage [] (fun k => (formatArgs config extension csrName privKeyName
      pubKeyName certName targetDir).lookup k) = .ok s) :=
  ⟨⟨_, rfl⟩, ⟨_, rfl⟩, ⟨_, rfl⟩⟩

theorem splitCsr_append {a : Str} (ha : ¬ splitLine <:+: a ++ splitLine.dropLast) (b : Str) :
    splitCsr (a ++ splitLine ++ b) =
      .ok (a ++ splitLine, lstrip whitespace ((splitFrom splitLine 0 b).headD [])) := by
  have hsplit : strSplit splitLine (a ++ splitLine ++ b) = .ok (a :: splitFrom splitLine 0 b) := by
    rw [strSplit, if_neg (by decide), splitFrom_append_sep (by decide) ha]
  obtain ⟨p, ps, hp⟩ := List.exists_cons_of_ne_nil (@splitFrom_ne_nil splitLine 0 b)
  rw [splitCsr, hsplit, ok_bind, hp]
  rfl

/-- `csr_pub[1]` raises `IndexError` exactly when the `openssl req` output holds no
`END PUBLIC KEY` line; when it holds one, the output is cut at the first: the public key runs
through that line, and the CSR is the text after it up to any further such line, without its
leading whitespace. -/
theorem split_csr_index_error_iff (text : Str) :
    (splitCsr text = .error .indexError ↔ ¬ splitLine <:+: text) ∧
    (splitLine <:+: text → ∃ a b, text = a ++ splitLine ++ b ∧
      ¬ splitLine <:+: a ++ splitLine.dropLast ∧
      splitCsr text =
        .ok (a ++ splitLine, lstrip whitespace ((splitFrom splitLine 0 b).headD []))) := by
  have hsplit : splitLine <:+: text → ∃ a b, text = a ++ splitLine ++ b ∧
      ¬ splitLine <:+: a ++ splitLine.dropLast ∧
      splitCsr text =
        .ok (a ++ splitLine, lstrip whitespace ((splitFrom splitLine 0 b).headD [])) :=
    fun hi => by
      obtain ⟨a, b, rfl, ha⟩ := exists_first_infix (by decide) hi
      exact ⟨a, b, rfl, ha, splitCsr_append ha b⟩
  refine ⟨⟨fun h hi => ?_, fun h => ?_⟩, hsplit⟩
  · obtain ⟨a, b, -, -, hok⟩ := hsplit hi
    rw [hok] at h
    cases h
  · rw [splitCsr, strSplit, if_neg (by decide), splitFrom_of_not_infix h]
    rfl

theorem split_csr_index_error_iff_witness :
    splitLine <:+: "PUB".toList ++ splitLine ++ "\nCSR".toList ∧
    ∃ a b, "PUB".toList ++ splitLine ++ "\nCSR".toList = a ++ splitLine ++ b ∧
      ¬ splitLine <:+: a ++ splitLine.dropLast ∧
      splitCsr ("PUB".toList ++ splitLine ++ "\nCSR".toList) =
        .ok (a ++ splitLine, lstrip whitespace ((splitFrom splitLine 0 b).headD [])) :=
  have hi : splitLine <:+: "PUB".toList ++ splitLine ++ "\nCSR".toList :=
    (List.infix_append _ _ _)
  ⟨hi, (split_csr_index_error_iff _).2 hi⟩

/-- `openssl_template.format(**template_args)` succeeds exactly when every field of the template
names one of the seven template arguments. -/
theorem config_format_ok_iff (args : Namespace) (organizationalUnit : PyObj) (targetDir : Str)
    {ps : List FormatPart} (hps : ∀ p ∈ ps, p.Plain) :
    (∃ config, strFormat (ps.flatMap FormatPart.render) []
        (fun k => (templateArgs args organizationalUnit targetDir).lookup k) = .ok config) ↔
      ∀ name, FormatPart.field name ∈ ps →
        name ∈ ["common_name".toList, "organization".toList, "organizational_unit".toList,
          "locality".toList, "state_or_province".toList, "country".toList,
          "target_dir".toList] := by
  have hkeys : (templateArgs args organizationalUnit targetDir).map Prod.fst =
      ["common_name".toList, "organization".toList, "organizational_unit".toList,
        "locality".toList, "state_or_province".toList, "country".toList, "target_dir".toList] :=
    rfl
  rw [strFormat_render hps, fill_lookup_ok_iff (by rw [hkeys]; decide), hkeys]

theorem config_format_ok_iff_witness :
    (∀ p ∈ [FormatPart.lit 'C', .lit 'N', .lit '=', .field "common_name".toList], p.Plain) ∧
    ((∃ config, strFormat
        ([FormatPart.lit 'C', .lit 'N', .lit '=', .field "common_name".toList].flatMap
          FormatPart.render) []
        (fun k => (templateArgs ∅ (.str "Unit".toList) "/ca".toList).lookup k) = .ok config) ↔
      ∀ name, FormatPart.field name ∈
          [FormatPart.lit 'C', .lit 'N', .lit '=', .field "common_name".toList] →
        name ∈ ["common_name".toList, "organization".toList, "organizational_unit".toList,
          "locality".toList, "state_or_province".toList, "country".toList,
          "target_dir".toList]) :=
  ⟨by decide, config_format_ok_iff _ _ _ (by decide)⟩

section Execute

variable {env : Env} {args : Namespace} {extension template config tempName : Str}

theorem execute_outName (kind : Str) (h1 : '{' ∉ kind) (h2 : '}' ∉ kind) :
    strFormat (outName kind) []
        (fun k => (("file_prefix".toList,
          env.getFilePrefix (fileArgs args env.now env.targetDir)) ::
            fileArgs args env.now env.targetDir).lookup k) =
      .ok (env.outputPath args kind) :=
  strFormat_outName kind h1 h2

/-- With the template read and formatted, the temporary file created, every write accepted and,
in the `openssl req` output, one `END PUBLIC KEY` line, `_execute` returns: it writes the output
up to and including that line as the public key and the rest, without its leading whitespace,
as the CSR, each under its output path, and removes the certificate the serial file names. -/
theorem execute_writes_key_and_csr (htemplate : env.opensslTemplate = .ok template)
    (htemp : env.tempFile = .ok tempName)
    (hconfig : strFormat template []
      (fun k => (templateArgs args env.organizationalUnit env.targetDir).lookup k) = .ok config)
    (hwrite : ∀ path text, env.write path text = .ok ())
    {a b serial : Str} (hcsr : env.csrOutput = .ok (a ++ splitLine ++ b))
    (ha : ¬ splitLine <:+: a ++ splitLine.dropLast) (hb : ¬ splitLine <:+: b)
    (hserial : env.caSerialOld = .ok serial)
    (hremove : env.remove (pathJoin env.targetDir (strip whitespace serial ++ ".pem".toList)) =
      .ok ()) :
    ∃ o, execute env args extension = .ok o ∧ o.config = config ∧
      o.written = [(env.outputPath args "csr".toList, lstrip whitespace b),
        (env.outputPath args "pub".toList, a ++ splitLine)] ∧
      o.removed = pathJoin env.targetDir (strip whitespace serial ++ ".pem".toList) := by
  have hsplit : splitCsr (a ++ splitLine ++ b) = .ok (a ++ splitLine, lstrip whitespace b) := by
    rw [splitCsr_append ha, splitFrom_of_not_infix hb]
    rfl
  obtain ⟨⟨req, hreq⟩, ⟨ca, hca⟩, ⟨msg, hmsg⟩⟩ := strFormat_formatArgs_ok tempName extension
    (env.outputPath args "csr".toList) (env.outputPath args "priv".toList)
    (env.outputPath args "pub".toList) (env.outputPath args "cert".toList) env.targetDir
  rw [execute, htemplate, ok_bind]
  dsimp only
  rw [htemp, ok_bind, hconfig, ok_bind, hwrite, ok_bind,
    execute_outName "csr".toList (by decide) (by decide), ok_bind,
    execute_outName "priv".toList (by decide) (by decide), ok_bind,
    execute_outName "pub".toList (by decide) (by decide), ok_bind,
    execute_outName "cert".toList (by decide) (by decide), ok_bind]
  rw [hreq, ok_bind, hcsr, ok_bind, hsplit, ok_bind, hwrite, ok_bind, hwrite, ok_bind, hca, ok_bind,
    hserial, ok_bind, hremove, ok_bind, hmsg, ok_bind]
  exact ⟨_, rfl, rfl, rfl, rfl⟩

/-- What a returning `_execute` wrote, removed and returned: the CSR and the public key under
their output paths, the `.pem` file that `ca-serial.old` names, and the four output paths in
`format_args`. -/
theorem execute_eq_ok {out : Outcome} (h : execute env args extension = .ok out) :
    ∃ tempName serial, env.tempFile = .ok tempName ∧ env.caSerialOld = .ok serial ∧
      out.written.map Prod.fst =
        [env.outputPath args "csr".toList, env.outputPath args "pub".toList] ∧
      out.removed = pathJoin env.targetDir (strip whitespace serial ++ ".pem".toList) ∧
      out.formatArgs = formatArgs tempName extension (env.outputPath args "csr".toList)
        (env.outputPath args "priv".toList) (env.outputPath args "pub".toList)
        (env.outputPath args "cert".toList) env.targetDir := by
  rw [execute] at h
  obtain ⟨template, -, h⟩ := bind_eq_ok.mp h
  obtain ⟨tempName, htemp, h⟩ := bind_eq_ok.mp h
  obtain ⟨config, -, h⟩ := bind_eq_ok.mp h
  obtain ⟨⟨⟩, -, h⟩ := bind_eq_ok.mp h
  dsimp only at h
  rw [execute_outName "csr".toList (by decide) (by decide), ok_bind,
    execute_outName "priv".toList (by decide) (by decide), ok_bind,
    execute_outName "pub".toList (by decide) (by decide), ok_bind,
    execute_outName "cert".toList (by decide) (by decide), ok_bind] at h
  obtain ⟨req, -, h⟩ := bind_eq_ok.mp h
  obtain ⟨csrOutput, -, h⟩ := bind_eq_ok.mp h
  obtain ⟨⟨pub, csr⟩, -, h⟩ := bind_eq_ok.mp h
  obtain ⟨⟨⟩, -, h⟩ := bind_eq_ok.mp h
  obtain ⟨⟨⟩, -, h⟩ := bind_eq_ok.mp h
  obtain ⟨ca, -, h⟩ := bind_eq_ok.mp h
  obtain ⟨serial, hserial, h⟩ := bind_eq_ok.mp h
  obtain ⟨⟨⟩, -, h⟩ := bind_eq_ok.mp h
  obtain ⟨msg, -, h⟩ := bind_eq_ok.mp h
  cases h
  exact ⟨tempName, serial, htemp, hserial, rfl, rfl, rfl⟩

/-- `_execute` never deletes the material it has just generated. Its four output paths are
distinct and are the `csr_name`, `priv_key_name`, `pub_key_name` and `cert_name` of the
`format_args` it returns, the two files it writes are its CSR and public key files, and, whenever
it returns and the serial in `ca-serial.old` has no `/`, the `.pem` file it removes from the
target directory is none of the four. -/
theorem execute_never_removes_output {out : Outcome} (h : execute env args extension = .ok out)
    {serial : Str} (hserial : env.caSerialOld = .ok serial) (hslash : '/' ∉ serial) :
    (outputKinds.map (env.outputPath args)).Nodup ∧
    (∃ tempName, out.formatArgs = formatArgs tempName extension (env.outputPath args "csr".toList)
      (env.outputPath args "priv".toList) (env.outputPath args "pub".toList)
      (env.outputPath args "cert".toList) env.targetDir) ∧
    out.written.map Prod.fst =
      [env.outputPath args "csr".toList, env.outputPath args "pub".toList] ∧
    out.removed ∉ outputKinds.map (env.outputPath args) := by
  obtain ⟨tempName, serial', -, hs, hw, hr, hf⟩ := execute_eq_ok h
  obtain rfl : serial' = serial := Except.ok.inj (hs.symm.trans hserial)
  have hkinds : ∀ k ∈ outputKinds, '/' ∉ k := by decide
  refine ⟨List.Nodup.map_on (fun a ha b hb => outPath_inj (hkinds a ha) (hkinds b hb))
    (by decide), ⟨tempName, hf⟩, hw, ?_⟩
  have hb : '/' ∉ strip whitespace serial' ++ ".pem".toList := by
    rw [List.mem_append, not_or]
    exact ⟨fun hm => hslash ((strip_sublist serial').subset hm), by decide⟩
  rw [hr, List.mem_map]
  rintro ⟨k, -, hk⟩
  rw [Env.outputPath, outPath_eq] at hk
  exact pathJoin_ne_of_slash hb (by simp) hk.symm

end Execute

def sampleCaEnv : Env :=
  ⟨"/ca".toList, "NOW".toList, .str "Unit".toList, fun _ => .str "srv".toList,
    .ok "CN=\x7bcommon_name\x7d".toList, .ok "/tmp/t".toList,
    .ok ("PUB".toList ++ splitLine ++ "\nCSR".toList), .ok "01\n".toList, fun _ _ => .ok (),
    fun _ => .ok (), false⟩

theorem execute_writes_key_and_csr_witness :
    sampleCaEnv.opensslTemplate = .ok "CN=\x7bcommon_name\x7d".toList ∧
    sampleCaEnv.tempFile = .ok "/tmp/t".toList ∧
    strFormat "CN=\x7bcommon_name\x7d".toList []
      (fun k => (templateArgs ∅ sampleCaEnv.organizationalUnit sampleCaEnv.targetDir).lookup k) =
      .ok "CN=localhost".toList ∧
    (∀ path text, sampleCaEnv.write path text = .ok ()) ∧
    sampleCaEnv.csrOutput = .ok ("PUB".toList ++ splitLine ++ "\nCSR".toList) ∧
    ¬ splitLine <:+: "PUB".toList ++ splitLine.dropLast ∧ ¬ splitLine <:+: "\nCSR".toList ∧
    sampleCaEnv.caSerialOld = .ok "01\n".toList ∧
    sampleCaEnv.remove
        (pathJoin sampleCaEnv.targetDir (strip whitespace "01\n".toList ++ ".pem".toList)) =
      .ok () ∧
    ∃ o, execute sampleCaEnv ∅ "server".toList = .ok o ∧ o.config = "CN=localhost".toList ∧
      o.written = [(sampleCaEnv.outputPath ∅ "csr".toList, lstrip whitespace "\nCSR".toList),
        (sampleCaEnv.outputPath ∅ "pub".toList, "PUB".toList ++ splitLine)] ∧
      o.removed =
        pathJoin sampleCaEnv.targetDir (strip whitespace "01\n".toList ++ ".pem".toList) := by
  have hconfig : strFormat "CN=\x7bcommon_name\x7d".toList []
      (fun k => (templateArgs ∅ sampleCaEnv.organizationalUnit sampleCaEnv.targetDir).lookup k) =
      .ok "CN=localhost".toList := by decide
  have ha : ¬ splitLine <:+: "PUB".toList ++ splitLine.dropLast := by decide
  have hb : ¬ splitLine <:+: "\nCSR".toList := by decide
  exact ⟨rfl, rfl, hconfig, fun _ _ => rfl, rfl, ha, hb, rfl, rfl,
    @execute_writes_key_and_csr sampleCaEnv ∅ "server".toList _ _ _ rfl rfl hconfig
      (fun _ _ => rfl) _ _ _ rfl ha hb rfl rfl⟩

set_option maxRecDepth 4000 in
theorem execute_never_removes_output_witness :
    ∃ out, execute sampleCaEnv ∅ "server".toList = .ok out ∧
      sampleCaEnv.caSerialOld = .ok "01\n".toList ∧ '/' ∉ "01\n".toList ∧
      (outputKinds.map (sampleCaEnv.outputPath ∅)).Nodup ∧
      (∃ tempName, out.formatArgs = formatArgs tempName "server".toList
        (sampleCaEnv.outputPath ∅ "csr".toList) (sampleCaEnv.outputPath ∅ "priv".toList)
        (sampleCaEnv.outputPath ∅ "pub".toList) (sampleCaEnv.outputPath ∅ "cert".toList)
        sampleCaEnv.targetDir) ∧
      out.written.map Prod.fst =
        [sampleCaEnv.outputPath ∅ "csr".toList, sampleCaEnv.outputPath ∅ "pub".toList] ∧
      out.removed ∉ outputKinds.map (sampleCaEnv.outputPath ∅) := by
  obtain ⟨out, h⟩ : ∃ out, execute sampleCaEnv ∅ "server".toList = .ok out := ⟨_, rfl⟩
  exact ⟨out, h, rfl, by decide, execute_never_removes_output h rfl (by decide)⟩

end CACreateCommand

end ZatoCli
