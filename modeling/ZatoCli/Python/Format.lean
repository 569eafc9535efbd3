import ZatoCli.Python.Namespace

namespace ZatoCli

/-- The field numbering of one `str.format` call (`auto_number` in `string_format.h`). -/
inductive AutoNumber
  | init
  | auto (next : Nat)
  | manual
  deriving DecidableEq, Repr

def getInteger (name : Str) : Nat :=
  name.foldl (fun n c => 10 * n + (c.toNat - '0'.toNat)) 0

/-- `field_name_split` and `get_field_object` on the part of a field name before any `.` or `[`:
the argument it names and the numbering after it. An empty part takes the next positional
argument, a part of digits the positional argument it spells, and any other part the keyword
argument of that name. -/
def getField (args : List PyObj) (kwargs : Str → Option PyObj) :
    AutoNumber → Str → Except PyError (PyObj × AutoNumber)
  | .manual, [] => .error (.valueError
      "cannot switch from manual field specification to automatic field numbering".toList)
  | .init, [] => (fun v => (v, AutoNumber.auto 1)) <$> pyIndex args 0
  | .auto n, [] => (fun v => (v, AutoNumber.auto (n + 1))) <$> pyIndex args n
  | an, name =>
    if name.all Char.isDigit then
      match an with
      | .auto _ => .error (.valueError
          "cannot switch from automatic field numbering to manual field specification".toList)
      | _ => (fun v => (v, AutoNumber.manual)) <$> pyIndex args (getInteger name)
    else match kwargs name with
      | some v => .ok (v, an)
      | none => .error (.keyError name)

/-- `parse_field`: a field's text cut at its first `:` or `!` into the field name, the conversion
after `!` and the format spec after `:`. -/
def parseField (field : Str) : Except PyError (Str × Option Char × Str) :=
  match field.span fun c => c != ':' && c != '!' with
  | (name, ':' :: spec) => .ok (name, none, spec)
  | (name, ['!', c]) => .ok (name, some c, [])
  | (name, '!' :: c :: ':' :: spec) => .ok (name, some c, spec)
  | (_, ['!']) => .error (.valueError
      "end of format while looking for conversion specifier".toList)
  | (_, '!' :: _) => .error (.valueError "expected ':' after format specifier".toList)
  | (name, _) => .ok (name, none, [])

/-- `field_name_split`: the part of a field name before its first `.` or `[`, and the
attribute and index parts after it. -/
def fieldNameSplit (name : Str) : Str × Str :=
  name.span fun c => c != '.' && c != '['

def unknownConversion (c : Char) : Str :=
  "Unknown conversion specifier ".toList ++
    (if 32 < c.toNat ∧ c.toNat < 127 then [c] else Char.ofNat 92 :: 'x' :: Nat.toDigits 16 c.toNat)

/-- `output_markup` for one replacement field: `get_field_object`, `do_conversion`, then
`format(obj, format_spec)`. What the model does not compute, attribute and index parts, `!r`,
`!s` of an arbitrary object and a non-empty format spec, is `formatNotModelled`. -/
def renderField (args : List PyObj) (kwargs : Str → Option PyObj) (an : AutoNumber)
    (field : Str) : Except PyError (Str × AutoNumber) := do
  let (name, conversion, spec) ← parseField field
  let (first, rest) := fieldNameSplit name
  let (v, an') ← getField args kwargs an first
  if rest ≠ [] then throw (.formatNotModelled field)
  let text ← match conversion, v with
    | none, v => pure v.format
    | some 's', .obj _ _ => throw (.formatNotModelled field)
    | some 's', v => pure v.format
    | some 'r', _ => throw (.formatNotModelled field)
    | some c, _ => throw (.valueError (unknownConversion c))
  if spec ≠ [] then throw (.formatNotModelled field)
  pure (text, an')

/-- `MarkupIterator_next` with `output_markup`, over the rest of a format string: in literal
text (`none`), or inside a field at nesting `depth` whose text so far, reversed, is `name`.
Literal text runs to the next brace, `{{` and `}}` stand for one brace, and a field ends at the
brace that closes its nesting. -/
def formatFrom (args : List PyObj) (kwargs : Str → Option PyObj) :
    AutoNumber → Option (Nat × Str) → Str → Except PyError Str
  | _, none, [] => .ok []
  | an, none, '{' :: '{' :: cs => List.cons '{' <$> formatFrom args kwargs an none cs
  | an, none, '}' :: '}' :: cs => List.cons '}' <$> formatFrom args kwargs an none cs
  | _, none, ['{'] => .error (.valueError "Single '\x7b' encountered in format string".toList)
  | _, none, '}' :: _ => .error (.valueError "Single '\x7d' encountered in format string".toList)
  | an, none, '{' :: cs => formatFrom args kwargs an (some (0, [])) cs
  | an, none, c :: cs => List.cons c <$> formatFrom args kwargs an none cs
  | _, some _, [] => .error (.valueError "unmatched '\x7b' in format".toList)
  | an, some (0, name), '}' :: cs => do
    let (text, an') ← renderField args kwargs an name.reverse
    (text ++ ·) <$> formatFrom args kwargs an' none cs
  | an, some (depth + 1, name), '}' :: cs =>
    formatFrom args kwargs an (some (depth, '}' :: name)) cs
  | an, some (depth, name), '{' :: cs =>
    formatFrom args kwargs an (some (depth + 1, '{' :: name)) cs
  | an, some (depth, name), c :: cs => formatFrom args kwargs an (some (depth, c :: name)) cs

/-- `template.format(*args, **kwargs)`. -/
def strFormat (template : Str) (args : List PyObj) (kwargs : Str → Option PyObj) :
    Except PyError Str :=
  formatFrom args kwargs .init none template

/-- A format string as `str.format` reads it: literal characters and replacement fields. -/
inductive FormatPart
  | lit (c : Char)
  | field (name : Str)
  deriving DecidableEq, Repr

namespace FormatPart

def render : FormatPart → Str
  | lit '{' => ['{', '{']
  | lit '}' => ['}', '}']
  | lit c => [c]
  | field name => '{' :: name ++ ['}']

/-- What `str.format` is meant to make of the parts: each literal copied, each field replaced
by the argument it names, in order. -/
def fill (args : List PyObj) (kwargs : Str → Option PyObj) :
    AutoNumber → List FormatPart → Except PyError Str
  | _, [] => .ok []
  | an, lit c :: ps => List.cons c <$> fill args kwargs an ps
  | an, field name :: ps => do
    let (v, an') ← getField args kwargs an name
    (v.format ++ ·) <$> fill args kwargs an' ps

end FormatPart

/-- A field name that reads back as written and that the model evaluates in full: no brace, no
`:` spec, no `!` conversion, no `.` or `[` part. -/
def SimpleName (name : Str) : Prop := ∀ c ∈ name, c ∉ ['{', '}', ':', '!', '.', '[']

instance decidableSimpleName (name : Str) : Decidable (SimpleName name) :=
  inferInstanceAs (Decidable (∀ c ∈ name, c ∉ ['{', '}', ':', '!', '.', '[']))

def FormatPart.Plain : FormatPart → Prop
  | lit _ => True
  | field name => SimpleName name

instance FormatPart.decidablePlain : (p : FormatPart) → Decidable p.Plain
  | .lit _ => inferInstanceAs (Decidable True)
  | .field name => decidableSimpleName name

section Render

variable {args : List PyObj} {kwargs : Str → Option PyObj}

theorem formatFrom_lit {c : Char} (h1 : c ≠ '{') (h2 : c ≠ '}') (an : AutoNumber) (cs : Str) :
    formatFrom args kwargs an none (c :: cs) = List.cons c <$> formatFrom args kwargs an none cs :=
  formatFrom.eq_7 args kwargs an c cs (fun _ h _ => h1 h) (fun _ h _ => h2 h) (fun h _ => h1 h)
    h2 h1

theorem formatFrom_field_char {c : Char} (h1 : c ≠ '{') (h2 : c ≠ '}') (an : AutoNumber)
    (depth : Nat) (name cs : Str) :
    formatFrom args kwargs an (some (depth, name)) (c :: cs) =
      formatFrom args kwargs an (some (depth, c :: name)) cs :=
  formatFrom.eq_12 args kwargs an depth name c cs (fun _ h => h2 h) (fun _ _ h => h2 h) h1

theorem formatFrom_plain_append {t : Str} (h1 : '{' ∉ t) (h2 : '}' ∉ t) (an : AutoNumber)
    (rest : Str) :
    formatFrom args kwargs an none (t ++ rest) =
      (t ++ ·) <$> formatFrom args kwargs an none rest := by
  induction t with
  | nil =>
    rw [List.nil_append]
    cases formatFrom args kwargs an none rest <;> rfl
  | cons c t ih =>
    simp only [List.mem_cons, not_or] at h1 h2
    rw [List.cons_append, formatFrom_lit (Ne.symm h1.1) (Ne.symm h2.1), ih h1.2 h2.2]
    cases formatFrom args kwargs an none rest <;> rfl

theorem formatFrom_field_text {name : Str} (h1 : '{' ∉ name) (h2 : '}' ∉ name) (an : AutoNumber)
    (acc rest : Str) :
    formatFrom args kwargs an (some (0, acc)) (name ++ rest) =
      formatFrom args kwargs an (some (0, name.reverse ++ acc)) rest := by
  induction name generalizing acc with
  | nil => rfl
  | cons c name ih =>
    simp only [List.mem_cons, not_or] at h1 h2
    rw [List.cons_append, formatFrom_field_char (Ne.symm h1.1) (Ne.symm h2.1), ih h1.2 h2.2,
      List.reverse_cons, List.append_assoc, List.singleton_append]

theorem span_eq_self {p : Char → Bool} {l : Str} (h : ∀ c ∈ l, p c) : l.span p = (l, []) := by
  rw [List.span_eq_take_drop, List.takeWhile_eq_self_iff.mpr h, List.dropWhile_eq_nil_iff.mpr h]

theorem renderField_simple {name : Str} (h : SimpleName name) (an : AutoNumber) :
    renderField args kwargs an name =
      (fun r => (r.1.format, r.2)) <$> getField args kwargs an name := by
  have hsyn : ∀ c ∈ name, c ≠ ':' ∧ c ≠ '!' ∧ c ≠ '.' ∧ c ≠ '[' := fun c hc => by
    have := h c hc
    simp only [List.mem_cons, List.not_mem_nil, or_false, not_or] at this
    exact ⟨this.2.2.1, this.2.2.2.1, this.2.2.2.2.1, this.2.2.2.2.2⟩
  have hparse : parseField name = .ok (name, none, []) := by
    rw [parseField, span_eq_self fun c hc => by simp [(hsyn c hc).1, (hsyn c hc).2.1]]
  have hsplit : fieldNameSplit name = (name, []) :=
    span_eq_self fun c hc => by simp [(hsyn c hc).2.2.1, (hsyn c hc).2.2.2]
  rw [renderField, hparse, ok_bind]
  dsimp only
  rw [hsplit]
  cases getField args kwargs an name <;> rfl

theorem formatFrom_field {name : Str} (h : SimpleName name) (an : AutoNumber) (rest : Str) :
    formatFrom args kwargs an none ('{' :: (name ++ '}' :: rest)) =
      (do
        let (v, an') ← getField args kwargs an name
        (v.format ++ ·) <$> formatFrom args kwargs an' none rest) := by
  have h1 : '{' ∉ name := fun hc => h _ hc (by simp)
  have h2 : '}' ∉ name := fun hc => h _ hc (by simp)
  have hopen : formatFrom args kwargs an none ('{' :: (name ++ '}' :: rest)) =
      formatFrom args kwargs an (some (0, [])) (name ++ '}' :: rest) := by
    cases name with
    | nil => simp [formatFrom]
    | cons c name => simp [formatFrom, Ne.symm (List.ne_of_not_mem_cons h1)]
  rw [hopen, formatFrom_field_text h1 h2]
  simp only [formatFrom, List.append_nil, List.reverse_reverse, renderField_simple h]
  cases getField args kwargs an name <;> rfl

theorem formatFrom_render (an : AutoNumber) :
    ∀ {ps : List FormatPart}, (∀ p ∈ ps, p.Plain) →
      formatFrom args kwargs an none (ps.flatMap FormatPart.render) =
        FormatPart.fill args kwargs an ps
  | [], _ => rfl
  | .lit c :: ps, h => by
    have ih := formatFrom_render an (fun p hp => h p (List.mem_cons_of_mem _ hp))
    rw [List.flatMap_cons, FormatPart.fill, ← ih]
    by_cases h1 : c = '{'
    · subst h1; simp [FormatPart.render, formatFrom]
    by_cases h2 : c = '}'
    · subst h2; simp [FormatPart.render, formatFrom]
    · simp [FormatPart.render, formatFrom, h1, h2]
  | .field name :: ps, h => by
    have hps : ∀ p ∈ ps, p.Plain := fun p hp => h p (List.mem_cons_of_mem _ hp)
    have hrender : (FormatPart.field name :: ps).flatMap FormatPart.render =
        '{' :: (name ++ '}' :: ps.flatMap FormatPart.render) := by simp [FormatPart.render]
    rw [hrender, formatFrom_field (h _ (List.mem_cons_self _ _)), FormatPart.fill]
    cases getField args kwargs an name with
    | error e => rfl
    | ok r => simp [formatFrom_render r.2 hps]

/-- A format string written from parts means what the parts say: `str.format` parses back
every literal, doubled braces included, and every field whose name has no brace. -/
theorem strFormat_render {ps : List FormatPart} (h : ∀ p ∈ ps, p.Plain) :
    strFormat (ps.flatMap FormatPart.render) args kwargs = FormatPart.fill args kwargs .init ps :=
  formatFrom_render .init h

theorem getField_keyword {an : AutoNumber} {name : Str} {v : PyObj}
    (hd : name.all Char.isDigit = false) (hv : kwargs name = some v) :
    getField args kwargs an name = .ok (v, an) := by
  cases name with
  | nil => simp at hd
  | cons c cs => simp [getField, hd, hv]

theorem getField_nil_eq_ok {an : AutoNumber} {name : Str} {r : PyObj × AutoNumber} :
    getField [] kwargs an name = .ok r ↔
      name.all Char.isDigit = false ∧ kwargs name = some r.1 ∧ r.2 = an := by
  cases name with
  | nil => cases an <;> simp [getField, pyIndex]
  | cons c cs =>
    simp only [getField]
    split_ifs with hd
    · cases an <;> simp [pyIndex, hd]
    · cases h : kwargs (c :: cs) <;> simp [hd]
      constructor
      · rintro rfl; simp
      · rintro ⟨rfl, rfl⟩; rfl

theorem fill_nil_ok_iff (an : AutoNumber) : ∀ {ps : List FormatPart},
    (∃ s, FormatPart.fill [] kwargs an ps = .ok s) ↔
      ∀ name, FormatPart.field name ∈ ps →
        name.all Char.isDigit = false ∧ (kwargs name).isSome
  | [] => by simp [FormatPart.fill]
  | .lit c :: ps => by
    simp only [FormatPart.fill, map_eq_ok, List.mem_cons, reduceCtorEq, false_or]
    rw [← fill_nil_ok_iff an]
    exact ⟨fun ⟨_, a, ha, _⟩ => ⟨a, ha⟩, fun ⟨a, ha⟩ => ⟨_, a, ha, rfl⟩⟩
  | .field name :: ps => by
    constructor
    · rintro ⟨s, hs⟩
      rw [FormatPart.fill] at hs
      obtain ⟨⟨v, an'⟩, hr, hfill⟩ := bind_eq_ok.mp hs
      obtain ⟨hd, hk, -⟩ := getField_nil_eq_ok.mp hr
      obtain ⟨s', hs', -⟩ := map_eq_ok.mp hfill
      have hps := (fill_nil_ok_iff an').mp ⟨s', hs'⟩
      intro n hn
      rcases List.mem_cons.mp hn with h | h
      · cases h
        exact ⟨hd, by simp [hk]⟩
      · exact hps n h
    · intro h
      obtain ⟨hd, hk⟩ := h name (List.mem_cons_self _ _)
      obtain ⟨v, hv⟩ := Option.isSome_iff_exists.mp hk
      obtain ⟨s, hs⟩ := (fill_nil_ok_iff an).mpr fun n hn => h n (List.mem_cons_of_mem _ hn)
      have hg : getField [] kwargs an name = .ok (v, an) := getField_nil_eq_ok.mpr ⟨hd, hv, rfl⟩
      exact ⟨v.format ++ s, by
        rw [FormatPart.fill, hg, ok_bind]
        simp [hs, Functor.map, Except.map]⟩

theorem lookup_isSome_iff_mem {l : List (Str × PyObj)} {k : Str} :
    (l.lookup k).isSome ↔ k ∈ l.map Prod.fst := by
  rw [List.lookup_isSome_iff, List.mem_map]
  exact ⟨fun ⟨p, hp, he⟩ => ⟨p, hp, (beq_iff_eq.mp he).symm⟩,
    fun ⟨p, hp, he⟩ => ⟨p, hp, beq_iff_eq.mpr he.symm⟩⟩

theorem fill_lookup_ok_iff {l : List (Str × PyObj)}
    (hl : ∀ k ∈ l.map Prod.fst, k.all Char.isDigit = false) (an : AutoNumber)
    {ps : List FormatPart} :
    (∃ s, FormatPart.fill [] (fun k => l.lookup k) an ps = .ok s) ↔
      ∀ name, FormatPart.field name ∈ ps → name ∈ l.map Prod.fst := by
  rw [fill_nil_ok_iff]
  refine forall_congr' fun name => imp_congr_right fun _ => ?_
  rw [lookup_isSome_iff_mem]
  exact ⟨And.right, fun h => ⟨hl name h, h⟩⟩

end Render

end ZatoCli
