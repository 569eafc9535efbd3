import Mathlib.Data.List.Infix
import ZatoCli.Python.Namespace

namespace ZatoCli

/-- The terminal: the entries `getpass` will return, and the prompts and log lines written so far.
The standard `getpass` returns each line without its newline; `input` may hold any strings, and
a theorem that needs newline-free entries says so. -/
structure Console where
  input : List Str
  output : List Str
  deriving DecidableEq, Repr

def passwordPrompt (template : Str) : Str := template ++ " (will not be echoed): ".toList

def confirmPrompt : Str := "Enter the password again. Will not be echoed: ".toList

/-- The `while keep_running` loop of `ZatoCommand._get_password` over the lines left to read;
running out of them is `getpass` raising `EOFError`. -/
def getPasswordLoop (template : Str) (needsConfirm : Bool) (out : List Str) :
    List Str → Except PyError (Str × Console)
  | [] => .error .eofError
  | password1 :: rest =>
    if !needsConfirm then .ok (strip ['\n'] password1, ⟨rest, out ++ [passwordPrompt template]⟩)
    else match rest with
      | [] => .error .eofError
      | password2 :: rest =>
        let out := out ++ [passwordPrompt template, confirmPrompt]
        if password1 ≠ password2 then
          getPasswordLoop template needsConfirm (out ++ ["Passwords do not match".toList]) rest
        else if password1 = [] then
          getPasswordLoop template needsConfirm (out ++ ["No password entered".toList]) rest
        else .ok (strip ['\n'] password1, ⟨rest, out⟩)

/-- `ZatoCommand._get_password`, after its `self.logger.info('')`. -/
def getPassword (template : Str) (needsConfirm : Bool) (con : Console) :
    Except PyError (Str × Console) :=
  getPasswordLoop template needsConfirm (con.output ++ [[]]) con.input

/-- `opt_name.replace('--', '').replace('-', '_')`. -/
def normalizeOptName (name : Str) : Str :=
  replace "-".toList "_".toList (replace "--".toList [] name)

/-- One pass of the loop of `ZatoCommand._check_passwords`. -/
def checkPasswordOpt (needsConfirm : Bool) (st : Namespace × Console) (opt : Str × Str) :
    Except PyError (Namespace × Console) :=
  let optName := normalizeOptName opt.1
  if st.1.truthyAt optName then .ok st
  else do
    let (password, con) ← getPassword opt.2 needsConfirm st.2
    pure (st.1.insert optName (.str password), con)

def checkPasswords (needsConfirm : Bool) (checkPassword : List (Str × Str)) (args : Namespace)
    (con : Console) : Except PyError (Namespace × Console) :=
  checkPassword.foldlM (checkPasswordOpt needsConfirm) (args, con)

def optItem (optDict : List (Str × Str)) (key : Str) : Except PyError Str :=
  match optDict.lookup key with
  | some v => .ok v
  | none => .error (.keyError key)

/-- The `for opt_dict in self.opts` loop of `ZatoCommand.run`: the options whose name
contains `password`, with their help texts. -/
def passwordOpts : List (List (Str × Str)) → Except PyError (List (Str × Str))
  | [] => .ok []
  | optDict :: rest => do
    let name ← optItem optDict "name".toList
    let found ← if "password".toList <:+: name then do
        let help ← optItem optDict "help".toList
        pure [(name, help)]
      else pure []
    let more ← passwordOpts rest
    pure (found ++ more)

/-- `common_ca_create_opts`: its dicts carry the key `'name='` where the others carry `'name'`. -/
def commonCaCreateOpts : List (List (Str × Str)) :=
  [[("name=".toList, "organization".toList),
      ("help".toList, "Organization name (defaults to My Company)".toList)],
    [("name=".toList, "locality".toList),
      ("help".toList, "Locality name (defaults to My Town)".toList)],
    [("name=".toList, "state-or-province".toList),
      ("help".toList, "State or province name (defaults to My State)".toList)],
    [("name=".toList, "country".toList), ("help".toList, "Country (defaults to US)".toList)],
    [("name=".toList, "common-name".toList),
      ("help".toList, "Common name (defaults to localhost)".toList)]]

/-- The class attributes of a command that `ZatoCommand.run` reads. -/
structure CommandClass where
  needsEmptyDir : Bool
  fileNeeded : Option Str
  needsPasswordConfirm : Bool
  opts : List (List (Str × Str))

/-- What `ZatoCommand.run` learns from the file system: the work directory and its listing,
whether the needed file exists, and what `_on_file_missing(work_args)` returns or raises. -/
structure RunEnv where
  workDir : Str
  workDirListing : List Str
  fileNeededExists : Bool
  onFileMissing : Except PyError Str

/-- `ZatoCommand.run` up to `self.execute(args)`: the arguments `execute` is given. -/
def run (cls : CommandClass) (env : RunEnv) (args : Namespace) (con : Console) :
    Except PyError (Namespace × Console) := do
  if cls.needsEmptyDir ∧ env.workDirListing ≠ [] then
    throw (.exit 2 ("Directory ".toList ++ env.workDir ++
      " is not empty, please re-run the command in an empty directory".toList))
  if cls.fileNeeded.isSome ∧ cls.fileNeeded ≠ some [] ∧ !env.fileNeededExists then
    throw (.exit 2 (← env.onFileMissing))
  let checkPassword ← passwordOpts cls.opts
  if checkPassword.isEmpty then pure (args, con)
  else checkPasswords cls.needsPasswordConfirm checkPassword args con

def rejectMessage (p : Str × Str) : Str :=
  if p.1 ≠ p.2 then "Passwords do not match".toList else "No password entered".toList

def confirmTranscript (template : Str) (turnedDown : List (Str × Str)) : List Str :=
  turnedDown.flatMap (fun p => [passwordPrompt template, confirmPrompt, rejectMessage p]) ++
    [passwordPrompt template, confirmPrompt]

theorem getPasswordLoop_confirmed {template : Str} :
    ∀ {out input : List Str} {password : Str} {con : Console},
      getPasswordLoop template true out input = .ok (password, con) →
      ∃ (turnedDown : List (Str × Str)) (e : Str),
        (∀ p ∈ turnedDown, p.1 ≠ p.2 ∨ p.1 = []) ∧ e ≠ [] ∧
        input = turnedDown.flatMap (fun p => [p.1, p.2]) ++ e :: e :: con.input ∧
        password = strip ['\n'] e ∧ con.output = out ++ confirmTranscript template turnedDown
  | _, [], _, _, h => by simp [getPasswordLoop] at h
  | _, [_], _, _, h => by simp [getPasswordLoop] at h
  | _, p1 :: p2 :: rest, _, _, h => by
    simp only [getPasswordLoop, Bool.not_true, Bool.false_eq_true, if_false] at h
    split_ifs at h with hne hnil
    · obtain ⟨td, e, htd, he, hin, hpw, hout⟩ := getPasswordLoop_confirmed h
      exact ⟨(p1, p2) :: td, e, by simpa [hne] using htd, he, by simp [hin], hpw,
        by simp [hout, confirmTranscript, rejectMessage, hne]⟩
    · obtain ⟨td, e, htd, he, hin, hpw, hout⟩ := getPasswordLoop_confirmed h
      exact ⟨(p1, p2) :: td, e, by simpa [hnil] using htd, he, by simp [hin], hpw,
        by simp [hout, confirmTranscript, rejectMessage, not_not.mp hne]⟩
    · cases h
      exact ⟨[], p1, by simp, hnil, by simp [not_not.mp hne], rfl, by simp [confirmTranscript]⟩

theorem getPasswordLoop_of_confirmed {template e : Str} (he : e ≠ []) (rest : List Str) :
    ∀ {turnedDown : List (Str × Str)} {out : List Str},
      (∀ p ∈ turnedDown, p.1 ≠ p.2 ∨ p.1 = []) →
      getPasswordLoop template true out
          (turnedDown.flatMap (fun p => [p.1, p.2]) ++ e :: e :: rest) =
        .ok (strip ['\n'] e, ⟨rest, out ++ confirmTranscript template turnedDown⟩)
  | [], out, _ => by simp [getPasswordLoop, he, confirmTranscript]
  | (a, b) :: td, out, h => by
    have htd : ∀ p ∈ td, p.1 ≠ p.2 ∨ p.1 = [] := fun p hp => h p (List.mem_cons_of_mem _ hp)
    simp only [List.flatMap_cons, List.cons_append, List.nil_append]
    by_cases hab : a = b
    · have ha : a = [] := (h (a, b) (List.mem_cons_self _ _)).resolve_left (by simpa using hab)
      subst hab ha
      simp [getPasswordLoop, getPasswordLoop_of_confirmed he rest htd, confirmTranscript,
        rejectMessage]
    · simp [getPasswordLoop, hab, getPasswordLoop_of_confirmed he rest htd, confirmTranscript,
        rejectMessage]

/-- `_get_password` with confirmation returns exactly when the entries hold, at a pair boundary,
a pair of equal non-empty entries behind pairs it turns down; it returns that entry without its
surrounding newlines, leaves the later entries unread, and logs why each earlier pair was turned
down. -/
theorem get_password_confirmed_iff (template : Str) (con con' : Console) (password : Str) :
    getPassword template true con = .ok (password, con') ↔
      ∃ (turnedDown : List (Str × Str)) (e : Str),
        (∀ p ∈ turnedDown, p.1 ≠ p.2 ∨ p.1 = []) ∧ e ≠ [] ∧
        con.input = turnedDown.flatMap (fun p => [p.1, p.2]) ++ e :: e :: con'.input ∧
        password = strip ['\n'] e ∧
        con'.output = con.output ++ [] :: confirmTranscript template turnedDown := by
  constructor
  · intro h
    obtain ⟨td, e, htd, he, hin, hpw, hout⟩ := getPasswordLoop_confirmed h
    exact ⟨td, e, htd, he, hin, hpw, by simpa using hout⟩
  · rintro ⟨td, e, htd, he, hin, rfl, hout⟩
    rw [getPassword, hin, getPasswordLoop_of_confirmed he _ htd]
    cases con'
    simp_all

theorem checkPasswordOpt_truthy {nc : Bool} {st : Namespace × Console} {name help : Str}
    (h : st.1.truthyAt (normalizeOptName name)) :
    checkPasswordOpt nc st (name, help) = .ok st := by
  simp [checkPasswordOpt, h]

theorem checkPasswordOpt_prompt {nc : Bool} {st st' : Namespace × Console} {name help : Str}
    (h : st.1.truthyAt (normalizeOptName name) = false)
    (hst : checkPasswordOpt nc st (name, help) = .ok st') :
    ∃ password, getPassword help nc st.2 = .ok (password, st'.2) ∧
      st'.1 = st.1.insert (normalizeOptName name) (.str password) := by
  simp only [checkPasswordOpt, h, Bool.false_eq_true, if_false, bind_eq_ok] at hst
  obtain ⟨⟨password, con⟩, hget, hst⟩ := hst
  cases hst
  exact ⟨password, hget, rfl⟩

theorem checkPasswords_keeps_truthy {nc : Bool} {n : Str} {v : PyObj} (hv : v.truthy) :
    ∀ {cp : List (Str × Str)} {args args' : Namespace} {con con' : Console},
      args.lookup n = some v → checkPasswords nc cp args con = .ok (args', con') →
      args'.lookup n = some v
  | [], _, _, _, _, hn, h => by
    simp only [checkPasswords, List.foldlM_nil] at h
    cases h
    exact hn
  | (name, help) :: rest, args, _, con, _, hn, h => by
    simp only [checkPasswords, List.foldlM_cons, bind_eq_ok] at h
    obtain ⟨st, hst, hrest⟩ := h
    refine checkPasswords_keeps_truthy hv ?_ hrest
    by_cases ht : args.truthyAt (normalizeOptName name)
    · rw [checkPasswordOpt_truthy ht] at hst
      cases hst
      exact hn
    · obtain ⟨_, _, hins⟩ := checkPasswordOpt_prompt (by simpa using ht) hst
      have hne : n ≠ normalizeOptName name := by
        rintro rfl
        simp [Namespace.truthyAt, hn, hv] at ht
      rw [hins, AList.lookup_insert_ne hne, hn]

theorem checkPasswords_append_cons {nc : Bool} {pre post : List (Str × Str)} {opt : Str × Str}
    {args : Namespace} {con : Console} {r : Namespace × Console}
    (h : checkPasswords nc (pre ++ opt :: post) args con = .ok r) :
    ∃ before after, checkPasswords nc pre args con = .ok before ∧
      checkPasswordOpt nc before opt = .ok after ∧
      checkPasswords nc post after.1 after.2 = .ok r := by
  simp only [checkPasswords, List.foldlM_append, List.foldlM_cons, bind_eq_ok] at h
  obtain ⟨before, hpre, after, hopt, hpost⟩ := h
  exact ⟨before, after, hpre, hopt, hpost⟩

theorem checkPasswordOpt_suffix {st st' : Namespace × Console} {opt : Str × Str}
    (h : checkPasswordOpt true st opt = .ok st') : st'.2.input <:+ st.2.input := by
  by_cases ht : st.1.truthyAt (normalizeOptName opt.1)
  · rw [checkPasswordOpt_truthy ht] at h
    cases h
    exact List.suffix_refl _
  · obtain ⟨_, hget, -⟩ := checkPasswordOpt_prompt (by simpa using ht) h
    obtain ⟨td, e, -, -, hin, -, -⟩ := getPasswordLoop_confirmed hget
    exact ⟨td.flatMap (fun p => [p.1, p.2]) ++ [e, e], by rw [hin]; simp⟩

theorem checkPasswords_suffix : ∀ {cp : List (Str × Str)} {args : Namespace} {con : Console}
    {r : Namespace × Console}, checkPasswords true cp args con = .ok r → r.2.input <:+ con.input
  | [], _, _, _, h => by
    simp only [checkPasswords, List.foldlM_nil] at h
    cases h
    exact List.suffix_refl _
  | _ :: _, _, _, _, h => by
    simp only [checkPasswords, List.foldlM_cons, bind_eq_ok] at h
    obtain ⟨st, hst, hrest⟩ := h
    exact (checkPasswords_suffix hrest).trans (checkPasswordOpt_suffix hst)

/-- What `_check_passwords` does for the option `name` at its turn, from `before` to `after`:
a truthy attribute is kept; otherwise it is set to the entry of the first pair of equal
non-empty entries read, stripped of newlines. -/
def Collected (name : Str) (before after : Namespace × Console) : Prop :=
  (before.1.truthyAt (normalizeOptName name) → after = before) ∧
  (before.1.truthyAt (normalizeOptName name) = false →
    ∃ (turnedDown : List (Str × Str)) (e : Str),
      (∀ p ∈ turnedDown, p.1 ≠ p.2 ∨ p.1 = []) ∧ e ≠ [] ∧
      before.2.input = turnedDown.flatMap (fun p => [p.1, p.2]) ++ e :: e :: after.2.input ∧
      after.1 = before.1.insert (normalizeOptName name) (.str (strip ['\n'] e)))

/-- For a confirming command, with `getpass` returning lines without their newline, every
password option in any list is `Collected` at its turn, and when the loop returns its attribute
holds a non-empty value: the truthy one it had, or the confirmed entry. -/
theorem check_passwords_collects {pre post : List (Str × Str)} {name help : Str}
    {args args' : Namespace} {con con' : Console} (hgetpass : ∀ e ∈ con.input, '\n' ∉ e)
    (h : checkPasswords true (pre ++ (name, help) :: post) args con = .ok (args', con')) :
    ∃ before after : Namespace × Console,
      checkPasswords true pre args con = .ok before ∧
      checkPasswordOpt true before (name, help) = .ok after ∧
      checkPasswords true post after.1 after.2 = .ok (args', con') ∧
      Collected name before after ∧
      ∃ v, v.truthy ∧ after.1.lookup (normalizeOptName name) = some v ∧
        args'.lookup (normalizeOptName name) = some v := by
  obtain ⟨before, after, hpre, hopt, hpost⟩ := checkPasswords_append_cons h
  have hkept : ∀ v, v.truthy → after.1.lookup (normalizeOptName name) = some v →
      ∃ v, v.truthy ∧ after.1.lookup (normalizeOptName name) = some v ∧
        args'.lookup (normalizeOptName name) = some v :=
    fun v hv hl => ⟨v, hv, hl, checkPasswords_keeps_truthy hv hl hpost⟩
  by_cases ht : before.1.truthyAt (normalizeOptName name)
  · obtain rfl : after = before :=
      (Except.ok.inj ((checkPasswordOpt_truthy ht).symm.trans hopt)).symm
    refine ⟨after, after, hpre, hopt, hpost, ⟨fun _ => rfl, fun hf => absurd hf (by simp [ht])⟩, ?_⟩
    obtain ⟨v, hl, hv⟩ := Namespace.truthyAt_eq_true.mp ht
    exact hkept v hv hl
  · rw [Bool.not_eq_true] at ht
    obtain ⟨password, hget, hins⟩ := checkPasswordOpt_prompt ht hopt
    obtain ⟨td, e, htd, he, hin, hpw, -⟩ := getPasswordLoop_confirmed hget
    have hmem : e ∈ con.input := (checkPasswords_suffix hpre).subset (by simp [hin])
    have hstrip : strip ['\n'] e = e :=
      strip_eq_self fun c hc hn => hgetpass e hmem (List.mem_singleton.mp hn ▸ hc)
    refine ⟨before, after, hpre, hopt, hpost, ⟨fun h => absurd h (by simp [ht]),
      fun _ => ⟨td, e, htd, he, hin, hpw ▸ hins⟩⟩, hkept (.str e) (by simpa using he) ?_⟩
    rw [hins, hpw, hstrip, AList.lookup_insert]

theorem check_passwords_collects_witness :
    (∀ e ∈ ["a".toList, "b".toList, "x".toList, "x".toList], '\n' ∉ e) ∧
    checkPasswords true ([] ++ [("--odb-password".toList, "ODB database password".toList)]) ∅
        ⟨["a".toList, "b".toList, "x".toList, "x".toList], []⟩ =
      .ok ((∅ : Namespace).insert "odb_password".toList (.str "x".toList),
        ⟨[], [[], passwordPrompt "ODB database password".toList, confirmPrompt,
          "Passwords do not match".toList, passwordPrompt "ODB database password".toList,
          confirmPrompt]⟩) ∧
    ∃ before after : Namespace × Console,
      checkPasswords true [] ∅ ⟨["a".toList, "b".toList, "x".toList, "x".toList], []⟩ =
        .ok before ∧
      checkPasswordOpt true before ("--odb-password".toList, "ODB database password".toList) =
        .ok after ∧
      checkPasswords true [] after.1 after.2 =
        .ok ((∅ : Namespace).insert "odb_password".toList (.str "x".toList),
          ⟨[], [[], passwordPrompt "ODB database password".toList, confirmPrompt,
            "Passwords do not match".toList, passwordPrompt "ODB database password".toList,
            confirmPrompt]⟩) ∧
      Collected "--odb-password".toList before after ∧
      ∃ v, v.truthy ∧ after.1.lookup (normalizeOptName "--odb-password".toList) = some v ∧
        ((∅ : Namespace).insert "odb_password".toList (.str "x".toList)).lookup
          (normalizeOptName "--odb-password".toList) = some v :=
  have hg : ∀ e ∈ ["a".toList, "b".toList, "x".toList, "x".toList], '\n' ∉ e := by decide
  have h : checkPasswords true ([] ++ [("--odb-password".toList, "ODB database password".toList)])
      ∅ ⟨["a".toList, "b".toList, "x".toList, "x".toList], []⟩ =
      .ok ((∅ : Namespace).insert "odb_password".toList (.str "x".toList),
        ⟨[], [[], passwordPrompt "ODB database password".toList, confirmPrompt,
          "Passwords do not match".toList, passwordPrompt "ODB database password".toList,
          confirmPrompt]⟩) := rfl
  ⟨hg, h, check_passwords_collects hg h⟩

theorem passwordOpts_append (l₁ l₂ : List (List (Str × Str))) :
    passwordOpts (l₁ ++ l₂) =
      (passwordOpts l₁ >>= fun a => passwordOpts l₂ >>= fun b => pure (a ++ b)) := by
  induction l₁ with
  | nil => simp [passwordOpts]
  | cons d l₁ ih =>
    rw [List.cons_append, passwordOpts, passwordOpts, ih]
    simp only [bind_assoc]
    congr 1
    funext name
    split_ifs <;> simp [List.append_assoc]

/-- Once its directory checks pass, `run` raises `KeyError: 'name'` for any command whose options
take in `common_ca_create_opts` behind well-formed ones. -/
theorem run_key_error_of_ca_create_opts (cls : CommandClass) (env : RunEnv) (args : Namespace)
    (con : Console) (pre post : List (List (Str × Str)))
    (hopts : cls.opts = pre ++ commonCaCreateOpts ++ post)
    (hpre : ∃ cp, passwordOpts pre = .ok cp)
    (hdir : cls.needsEmptyDir = false ∨ env.workDirListing = [])
    (hfile : cls.fileNeeded = none ∨ env.fileNeededExists = true) :
    run cls env args con = .error (.keyError "name".toList) := by
  obtain ⟨cp, hcp⟩ := hpre
  have hopts' : passwordOpts cls.opts = .error (.keyError "name".toList) := by
    rw [hopts, List.append_assoc, passwordOpts_append, hcp, ok_bind, passwordOpts_append]
    rfl
  have hskip1 : ¬(cls.needsEmptyDir = true ∧ env.workDirListing ≠ []) := by
    rcases hdir with h | h <;> simp [h]
  have hskip2 : ¬(cls.fileNeeded.isSome = true ∧ cls.fileNeeded ≠ some [] ∧
      (!env.fileNeededExists) = true) := by
    rcases hfile with h | h <;> simp [h]
  simp only [run, hskip1, hskip2, if_false, hopts']
  rfl

def sampleOpts : List (List (Str × Str)) :=
  [[("name".toList, "path".toList), ("help".toList, "Path".toList)],
   [("name".toList, "odb-password".toList), ("help".toList, "ODB database password".toList)]]

theorem run_key_error_of_ca_create_opts_witness :
    (⟨false, none, true, sampleOpts ++ commonCaCreateOpts⟩ : CommandClass).opts =
      sampleOpts ++ commonCaCreateOpts ++ [] ∧
    passwordOpts sampleOpts = .ok [("odb-password".toList, "ODB database password".toList)] ∧
    ((⟨false, none, true, sampleOpts ++ commonCaCreateOpts⟩ : CommandClass).needsEmptyDir =
        false ∨ (⟨"/tmp/ca".toList, ["x".toList], true, .ok []⟩ : RunEnv).workDirListing = []) ∧
    ((⟨false, none, true, sampleOpts ++ commonCaCreateOpts⟩ : CommandClass).fileNeeded = none ∨
      (⟨"/tmp/ca".toList, ["x".toList], true, .ok []⟩ : RunEnv).fileNeededExists = true) ∧
    run ⟨false, none, true, sampleOpts ++ commonCaCreateOpts⟩
      ⟨"/tmp/ca".toList, ["x".toList], true, .ok []⟩ ∅ ⟨[], []⟩ =
      .error (.keyError "name".toList) :=
  have hp : passwordOpts sampleOpts =
      .ok [("odb-password".toList, "ODB database password".toList)] := rfl
  ⟨(List.append_nil _).symm, hp, .inl rfl, .inl rfl,
    run_key_error_of_ca_create_opts _ _ _ _ _ [] (List.append_nil _).symm ⟨_, hp⟩ (.inl rfl)
      (.inl rfl)⟩

end ZatoCli
