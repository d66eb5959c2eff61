/-
AwsSigning/Proofs/Signing/Unambiguous.lean

The canonical request can be read in one way only.

It is one text in which many texts stand, some of them chosen by whoever
makes the request.  If one of these could hold a mark that ends it, two
requests that mean different things could have one canonical request, and so
one signature.  None can (`CanonicalRequest.Clean`):

    method, path     no line feed: token characters, encoded bytes
    parameters       no line feed, `&` or `=`: encoded bytes
    names            no line feed or colon: token characters
    values           no line feed: no control but the tab
    payload          anything; it is the rest

So the text is taken apart from the front, one part after the other
(`CanonicalRequest.render_eq_iff`), and two canonical requests are the same
text exactly if all that they stand for is the same
(`render_eq_iff_sameForm`).  Of several values under one name no more is told
than how they read with commas between them.
-/
import AwsSigning.Proofs.Signing.HeaderSignature

namespace AwsSigning.Signing

/-! ### Lines and pairs -/

/-- One line, with something on it. -/
def IsLine (line : List Char) : Prop := line ≠ [] ∧ '\n' ∉ line

/-- Where there is an empty line, no line starts that has something on it. -/
theorem IsLine.newline_ne {line : List Char} (h : IsLine line) (rest more : List Char) :
    '\n' :: rest ≠ line ++ more := by
  obtain ⟨c, line, rfl⟩ := List.exists_cons_of_ne_nil h.1
  intro heq
  have hc : '\n' = c := (List.cons.inj heq).1
  exact h.2 (hc ▸ List.mem_cons_self)

/-- Lines are told from what follows the empty line behind them. -/
theorem lines_inj {lines lines' : List (List Char)} {rest rest' : List Char}
    (h : ∀ line ∈ lines, IsLine line) (h' : ∀ line ∈ lines', IsLine line)
    (heq : lines.flatMap (· ++ ['\n']) ++ '\n' :: rest
      = lines'.flatMap (· ++ ['\n']) ++ '\n' :: rest') : lines = lines' ∧ rest = rest' := by
  induction lines generalizing lines' with
  | nil =>
    rcases lines' with - | ⟨line', lines'⟩
    · exact ⟨rfl, (List.cons.inj heq).2⟩
    · simp only [List.flatMap_nil, List.nil_append, List.flatMap_cons, List.append_assoc] at heq
      exact absurd heq ((h' line' List.mem_cons_self).newline_ne _ _)
  | cons line lines ih =>
    rcases lines' with - | ⟨line', lines'⟩
    · simp only [List.flatMap_nil, List.nil_append, List.flatMap_cons, List.append_assoc] at heq
      exact absurd heq.symm ((h line List.mem_cons_self).newline_ne _ _)
    · simp only [List.flatMap_cons, List.append_assoc, List.singleton_append] at heq
      obtain ⟨rfl, hrest⟩ := Text.cut_inj (h line List.mem_cons_self).2
        (h' line' List.mem_cons_self).2 heq
      obtain ⟨rfl, hend⟩ := ih (fun l hl => h l (List.mem_cons_of_mem _ hl))
        (fun l hl => h' l (List.mem_cons_of_mem _ hl)) hrest
      exact ⟨rfl, hend⟩

/-- Two texts with a mark between them. -/
def pairText (mark : Char) (pair : String × String) : List Char :=
  pair.1.toList ++ mark :: pair.2.toList

/-- Pairs are read back, if the mark is not in a first text. -/
theorem map_pairText_inj {mark : Char} {pairs pairs' : List (String × String)}
    (h : ∀ pair ∈ pairs, mark ∉ pair.1.toList) (h' : ∀ pair ∈ pairs', mark ∉ pair.1.toList)
    (heq : pairs.map (pairText mark) = pairs'.map (pairText mark)) : pairs = pairs' := by
  induction pairs generalizing pairs' with
  | nil => exact (List.map_eq_nil_iff.mp heq.symm).symm
  | cons pair pairs ih =>
    rcases pairs' with - | ⟨pair', pairs'⟩
    · cases heq
    · obtain ⟨hpair, hpairs⟩ := List.cons.inj heq
      obtain ⟨hfirst, hsecond⟩ := Text.cut_inj (h pair List.mem_cons_self)
        (h' pair' List.mem_cons_self) hpair
      have htail : pairs = pairs' := ih (fun p hp => h p (List.mem_cons_of_mem _ hp))
        (fun p hp => h' p (List.mem_cons_of_mem _ hp)) hpairs
      rw [Prod.ext (String.toList_inj.mp hfirst) (String.toList_inj.mp hsecond), htail]

/-! ### The text of a form -/

namespace CanonicalRequest

variable {r r' : CanonicalRequest}

/-- The fields as they are shown: each name with its values, a comma between any two of these. -/
def shownFields (r : CanonicalRequest) : List (String × String) :=
  r.fields.map fun field => (field.1, ",".intercalate field.2)

/-- No text of a form holds a mark that ends it. -/
structure Clean (r : CanonicalRequest) : Prop where
  method : '\n' ∉ r.method.toList
  path : '\n' ∉ r.path.toList
  parameterNames : ∀ pair ∈ r.query, '=' ∉ pair.1.toList
  parameters : ∀ pair ∈ r.query, '&' ∉ pairText '=' pair ∧ '\n' ∉ pairText '=' pair
  names : ∀ field ∈ r.shownFields, ':' ∉ field.1.toList
  fields : ∀ field ∈ r.shownFields, '\n' ∉ pairText ':' field

/-- The names of the fields as they are listed. -/
def listedNames (r : CanonicalRequest) : List Char :=
  List.intercalate [';'] (r.shownFields.map (·.1.toList))

/-- The parameters as they are listed. -/
def listedParameters (r : CanonicalRequest) : List Char :=
  List.intercalate ['&'] (r.query.map (pairText '='))

/-- The text from the front: each part up to its mark, and then the rest. -/
theorem toList_render (r : CanonicalRequest) :
    r.render.toList = r.method.toList ++ '\n' :: (r.path.toList ++ '\n' ::
      (r.listedParameters ++ '\n' ::
        ((r.shownFields.map (pairText ':')).flatMap (· ++ ['\n']) ++ '\n' ::
          (r.listedNames ++ '\n' :: r.payload.toList)))) := by
  have hparameters : ("&".intercalate (r.query.map renderParameter)).toList
      = r.listedParameters := by
    rw [String.toList_intercalate, List.map_map, listedParameters]
    refine congrArg (List.intercalate ['&']) (List.map_congr_left fun pair _ => ?_)
    simp [renderParameter, pairText]
  have hfields : (String.join (r.fields.map renderField)).toList
      = (r.shownFields.map (pairText ':')).flatMap (· ++ ['\n']) := by
    rw [String.toList_join, shownFields, List.map_map, List.flatMap_map, List.flatMap_map]
    refine List.flatMap_congr fun field _ => ?_
    simp [renderField, pairText]
  have hnames : (";".intercalate (r.fields.map (·.1))).toList = r.listedNames := by
    rw [String.toList_intercalate, List.map_map, listedNames, shownFields, List.map_map]
    rfl
  simp only [render, String.toList_append, hparameters, hfields, hnames, List.append_assoc]
  rfl

theorem Clean.query_inj (h : r.Clean) (h' : r'.Clean)
    (heq : r.listedParameters = r'.listedParameters) : r.query = r'.query := by
  have hpiece : ∀ {r : CanonicalRequest}, r.Clean →
      ∀ piece ∈ r.query.map (pairText '='), piece ≠ [] ∧ '&' ∉ piece := by
    intro r h piece hpiece
    obtain ⟨pair, hpair, rfl⟩ := List.mem_map.mp hpiece
    exact ⟨by simp [pairText], (h.parameters pair hpair).1⟩
  have hpieces : r.query.map (pairText '=') = r'.query.map (pairText '=') := by
    rw [← Text.filter_splitWhen_intercalate (hpiece h),
      ← Text.filter_splitWhen_intercalate (hpiece h')]
    rw [listedParameters, listedParameters] at heq
    rw [heq]
  exact map_pairText_inj h.parameterNames h'.parameterNames hpieces

theorem Clean.newline_not_mem_listedParameters (h : r.Clean) : '\n' ∉ r.listedParameters := by
  intro hmem
  have hmark : ∀ x ∈ ['&'], x ≠ '\n' := List.forall_mem_singleton.mpr (by decide)
  refine Text.forall_mem_intercalate (P := (· ≠ '\n')) hmark ?_ '\n' hmem rfl
  simp only [List.mem_map, forall_exists_index, and_imp, forall_apply_eq_imp_iff₂]
  rintro pair hpair x hx rfl
  exact (h.parameters pair hpair).2 hx

/-- A field is written on a line of its own, and the line is not empty. -/
theorem Clean.isLine (h : r.Clean) :
    ∀ line ∈ r.shownFields.map (pairText ':'), IsLine line := by
  intro line hline
  obtain ⟨field, hfield, rfl⟩ := List.mem_map.mp hline
  exact ⟨by simp [pairText], h.fields field hfield⟩

/-- **A form is read back from its text**, but for the places where values under one name end. -/
theorem render_eq_iff (h : r.Clean) (h' : r'.Clean) :
    r.render = r'.render ↔ r.method = r'.method ∧ r.path = r'.path ∧ r.query = r'.query ∧
      r.shownFields = r'.shownFields ∧ r.payload = r'.payload := by
  rw [← String.toList_inj, toList_render, toList_render]
  constructor
  · intro heq
    obtain ⟨hmethod, heq⟩ := Text.cut_inj h.method h'.method heq
    obtain ⟨hpath, heq⟩ := Text.cut_inj h.path h'.path heq
    obtain ⟨hquery, heq⟩ := Text.cut_inj h.newline_not_mem_listedParameters
      h'.newline_not_mem_listedParameters heq
    obtain ⟨hlines, heq⟩ := lines_inj h.isLine h'.isLine heq
    have hfields : r.shownFields = r'.shownFields := map_pairText_inj h.names h'.names hlines
    -- the names are known by now, so they are the same once more, and what is left is the payload
    have hpayload : r.payload.toList = r'.payload.toList := by
      rw [listedNames, listedNames, hfields] at heq
      exact (List.cons.inj (List.append_cancel_left heq)).2
    exact ⟨String.toList_inj.mp hmethod, String.toList_inj.mp hpath, h.query_inj h' hquery, hfields,
      String.toList_inj.mp hpayload⟩
  · rintro ⟨hmethod, hpath, hquery, hfields, hpayload⟩
    simp only [hmethod, hpath, listedParameters, hquery, listedNames, hfields, hpayload]

end CanonicalRequest

/-! ### What stands in a form -/

variable {c c' : Config} {s s' : Signable} {hs : Headers} {name : HeaderName}
  {r r' : CanonicalRequest}

/-- The parts have gone through both steps that make parts canonical. -/
def IsCanonical (c : Config) (s : Signable) : Prop :=
  ∃ parts : Signable, canonicalHeaders c parts = .ok s.headers ∧
    s.query = canonicalQuery (parts.query ++ addedParameters c s.headers)

theorem isCanonical_of_prepare {parts : Signable} (h : prepare c parts = .ok s) :
    IsCanonical c s := by
  obtain ⟨headers, hheaders, h⟩ := bind_eq_ok_iff.mp h
  cases h
  exact ⟨_, hheaders, rfl⟩

/-- What a form says about the parts it was made of. -/
structure FormOf (c : Config) (s : Signable) (r : CanonicalRequest) : Prop where
  method : r.method = s.method.text
  path : canonicalPath c.manner s.path = .ok r.path
  query : r.query = s.query
  fields : (signedNames s.headers).mapM (CanonicalRequest.field s.headers) = .ok r.fields
  payload : r.payload = c.payload.text

theorem formOf_of (h : CanonicalRequest.of c s = .ok r) : FormOf c s r := by
  obtain ⟨path, hpath, h⟩ := bind_eq_ok_iff.mp h
  obtain ⟨fields, hfields, h⟩ := bind_eq_ok_iff.mp h
  cases h
  exact ⟨rfl, hpath, rfl, hfields, rfl⟩

/-- The values under a name, a comma between any two of them. -/
def joinedValue (hs : Headers) (name : HeaderName) : Bytes :=
  List.intercalate [0x2C] ((hs.values name).map HeaderValue.bytes)

/-- A value that reads as text is one byte to a character. -/
theorem ofString_of_text? {value : HeaderValue} {text : String} (h : value.text? = some text) :
    Utf8.ofString text = value.bytes := by
  have hchar : ∀ b : UInt8, isTextByte b = true → (Char.ofNat b.toNat).toNat < 0x80 ∧
      UInt8.ofNat (Char.ofNat b.toNat).toNat = b :=
    Percent.forall_byte (by decide +kernel)
  unfold HeaderValue.text? at h
  split at h
  · next hread =>
    cases h
    have hbyte : ∀ b ∈ value.bytes, isTextByte b = true := List.all_eq_true.mp hread
    have hascii : ∀ x ∈ value.bytes.map fun b => Char.ofNat b.toNat, x.toNat < 0x80 := by
      intro x hx
      obtain ⟨b, hb, rfl⟩ := List.mem_map.mp hx
      exact (hchar b (hbyte b hb)).1
    rw [Utf8.ofString, String.toList_ofList, Utf8.encode_ascii hascii, List.map_map]
    exact (List.map_congr_left fun b hb => (hchar b (hbyte b hb)).2).trans (List.map_id _)
  · cases h

theorem ofString_of_valueText {value : HeaderValue} {text : String}
    (h : CanonicalRequest.valueText name value = .ok text) : Utf8.ofString text = value.bytes :=
  ofString_of_text? (valueText_eq_ok_iff.mp h)

/-- A field is shown as its name with its joined values. -/
theorem ofString_of_field {field : String × List String}
    (h : CanonicalRequest.field hs name = .ok field) :
    (field.1, Utf8.ofString (",".intercalate field.2)) = (name.text, joinedValue hs name) := by
  obtain ⟨texts, htexts, h⟩ := bind_eq_ok_iff.mp h
  cases h
  have hbytes : texts.map Utf8.ofString = (hs.values name).map HeaderValue.bytes :=
    map_eq_of_mapM_eq_ok htexts fun _ _ => ofString_of_valueText
  have hcomma : Utf8.encode ",".toList = [0x2C] := by decide
  rw [joinedValue, ← hbytes, Utf8.ofString, String.toList_intercalate, Query.encode_intercalate,
    hcomma, List.map_map]
  rfl

/-- **The fields of a form are the signed names with their joined values.** -/
theorem FormOf.shownFields_eq (h : FormOf c s r) :
    r.shownFields.map (fun field => (field.1, Utf8.ofString field.2))
      = (signedNames s.headers).map fun name => (name.text, joinedValue s.headers name) := by
  rw [CanonicalRequest.shownFields, List.map_map]
  exact map_eq_of_mapM_eq_ok h.fields fun _ _ => ofString_of_field

/-- A field that is shown is one of the header fields. -/
theorem FormOf.exists_of_mem_shownFields (h : FormOf c s r) {field : String × String}
    (hfield : field ∈ r.shownFields) :
    ∃ name : HeaderName, field.1 = name.text ∧
      Utf8.ofString field.2 = joinedValue s.headers name := by
  have hmem := List.mem_map_of_mem (f := fun field => (field.1, Utf8.ofString field.2)) hfield
  rw [h.shownFields_eq] at hmem
  obtain ⟨name, -, hname⟩ := List.mem_map.mp hmem
  obtain ⟨hfirst, hsecond⟩ := Prod.mk.inj hname
  exact ⟨name, hfirst.symm, hsecond.symm⟩

/-! ### Marks do not stand in it -/

theorem newline_not_mem_method (method : Method) : '\n' ∉ method.text.toList := by
  intro hmem
  have hlegal := method.legal
  rw [Bool.and_eq_true] at hlegal
  have htoken : isTokenChar '\n' = true := List.all_eq_true.mp hlegal.1 _ hmem
  exact absurd htoken (by decide)

theorem newline_not_mem_canonicalPath {m : Manner} {path path' : String}
    (h : canonicalPath m path = .ok path') : '\n' ∉ path'.toList := by
  have hencode : ∀ bytes, '\n' ∉ Percent.encode Percent.isPathByte bytes := by
    intro bytes hmem
    have hother : ('\n' != '\n') = true :=
      Percent.forall_mem_encode (p := (· != '\n')) (by decide +kernel) bytes _ hmem
    cases hother
  -- whether the escapes have been read or not, the bytes are encoded last
  unfold canonicalPath at h
  dsimp only at h
  split at h
  · cases h
    rw [Percent.encodeString, String.toList_ofList]
    exact hencode _
  · rcases hbytes : decodePath (plainPath m path) with e | bytes
    · rw [hbytes] at h
      cases h
    · rw [hbytes] at h
      cases h
      rw [String.toList_ofList]
      exact hencode bytes

/-- No mark of a query comes out of an encoded part. -/
theorem mark_not_mem_encodePart {mark : Char} (hmark : mark ∈ ['\n', '&', '=']) (s : String) :
    mark ∉ (Query.encodePart s).toList := by
  intro hmem
  rw [Query.encodePart, Percent.encodeString, String.toList_ofList] at hmem
  have hother : (!(['\n', '&', '='].contains mark)) = true :=
    Percent.forall_mem_encode (p := fun c => !(['\n', '&', '='].contains c)) (by decide +kernel) _ _
      hmem
  rw [List.contains_iff_mem.mpr hmark] at hother
  cases hother

/-- A canonical query is written with encoded parts. -/
theorem exists_encodePart_of_mem_canonicalQuery {query : Query} {pair : String × String}
    (h : pair ∈ canonicalQuery query) :
    ∃ name value, pair = (Query.encodePart name, Query.encodePart value) := by
  obtain ⟨sorted, -, hencode, -⟩ := exists_encode_eq_canonicalQuery query
  rw [← hencode] at h
  obtain ⟨plain, -, rfl⟩ := List.mem_map.mp h
  exact ⟨plain.1, plain.2, rfl⟩

theorem newline_not_mem_joinedValue (hs : Headers) (name : HeaderName) :
    0x0A ∉ joinedValue hs name := by
  intro hmem
  have hcomma : ∀ b ∈ ([0x2C] : Bytes), b ≠ 0x0A := List.forall_mem_singleton.mpr (by decide)
  refine Text.forall_mem_intercalate (P := (· ≠ 0x0A)) hcomma ?_ _ hmem rfl
  simp only [List.mem_map, forall_exists_index, and_imp, forall_apply_eq_imp_iff₂]
  rintro value - b hb rfl
  have hlegal : isValueByte 0x0A = true := List.all_eq_true.mp value.legal _ hb
  exact absurd hlegal (by decide)

/-- **No text of a form holds a mark that ends it**, if the query is canonical. -/
theorem FormOf.clean (h : FormOf c s r) (hcanonical : IsCanonical c s) : r.Clean := by
  have hparameter : ∀ pair ∈ r.query,
      ∃ name value, pair = (Query.encodePart name, Query.encodePart value) := by
    obtain ⟨parts, -, hquery⟩ := hcanonical
    rw [h.query, hquery]
    exact fun pair => exists_encodePart_of_mem_canonicalQuery
  constructor
  case method =>
    rw [h.method]
    exact newline_not_mem_method s.method
  case path => exact newline_not_mem_canonicalPath h.path
  case parameterNames =>
    intro pair hpair
    obtain ⟨name, value, rfl⟩ := hparameter pair hpair
    exact mark_not_mem_encodePart (by decide) name
  case parameters =>
    intro pair hpair
    obtain ⟨name, value, rfl⟩ := hparameter pair hpair
    have hpart : ∀ mark ∈ ['\n', '&'], mark ≠ '=' →
        mark ∉ pairText '=' (Query.encodePart name, Query.encodePart value) := by
      intro mark hmark hne
      have hany : mark ∈ ['\n', '&', '='] := List.mem_append_left ['='] hmark
      simp only [pairText, List.mem_append, List.mem_cons, not_or]
      exact ⟨mark_not_mem_encodePart hany name, hne, mark_not_mem_encodePart hany value⟩
    exact ⟨hpart '&' (by decide) (by decide), hpart '\n' (by decide) (by decide)⟩
  case names =>
    intro field hfield
    obtain ⟨name, hname, -⟩ := h.exists_of_mem_shownFields hfield
    rw [hname]
    exact HeaderName.not_mem_text (by decide) name
  case fields =>
    intro field hfield
    obtain ⟨name, hname, hvalue⟩ := h.exists_of_mem_shownFields hfield
    simp only [pairText, List.mem_append, List.mem_cons, not_or]
    refine ⟨hname ▸ HeaderName.not_mem_text (by decide) name, by decide, fun hnewline => ?_⟩
    -- a line feed in the text would be one in the bytes of the value
    have hbyte : 0x0A ∈ Utf8.ofString field.2 :=
      List.mem_flatMap.mpr ⟨'\n', hnewline, by decide⟩
    rw [hvalue] at hbyte
    exact newline_not_mem_joinedValue _ _ hbyte

/-! ### What a canonical request says -/

/-- Canonical parts of two requests that a signature does not tell apart. -/
structure SameForm (c c' : Config) (s s' : Signable) : Prop where
  method : s.method = s'.method
  path : canonicalPath c.manner s.path = canonicalPath c'.manner s'.path
  /-- The parameters, encoded and sorted. -/
  query : s.query = s'.query
  names : signedNames s.headers = signedNames s'.headers
  values : ∀ name ∈ signedNames s.headers, joinedValue s.headers name = joinedValue s'.headers name
  payload : c.payload.text = c'.payload.text

/-- The same names and joined values are shown by the same texts, and by no others. -/
theorem FormOf.shownFields_eq_iff (h : FormOf c s r) (h' : FormOf c' s' r') :
    r.shownFields = r'.shownFields ↔ signedNames s.headers = signedNames s'.headers ∧
      ∀ name ∈ signedNames s.headers, joinedValue s.headers name = joinedValue s'.headers name := by
  have hbytes : Function.Injective fun field : String × String =>
      (field.1, Utf8.ofString field.2) := by
    rintro ⟨a, b⟩ ⟨a', b'⟩ heq
    obtain ⟨ha, hb⟩ := Prod.mk.inj heq
    have hb' := congrArg Utf8.toStringLossy hb
    rw [Utf8.toStringLossy_ofString, Utf8.toStringLossy_ofString] at hb'
    exact Prod.ext ha hb'
  rw [← (List.map_injective_iff.mpr hbytes).eq_iff, h.shownFields_eq, h'.shownFields_eq]
  constructor
  · intro heq
    have hnames : signedNames s.headers = signedNames s'.headers := by
      have htexts := congrArg (List.map Prod.fst) heq
      rw [List.map_map, List.map_map] at htexts
      exact List.map_injective_iff.mpr (fun _ _ => HeaderName.text_inj.mp) htexts
    rw [← hnames] at heq
    exact ⟨hnames, fun name hname => (Prod.mk.inj (List.map_inj_left.mp heq name hname)).2⟩
  · rintro ⟨hnames, hvalues⟩
    rw [← hnames]
    exact List.map_congr_left fun name hname => congrArg (name.text, ·) (hvalues name hname)

/-- **The canonical request is unambiguous.**  Two requests in canonical form have one canonical
request only if they have the same method, canonical path, encoded parameters, names of signed
fields, joined values under each of these and payload value, and then they have. -/
theorem render_eq_iff_sameForm (hcanonical : IsCanonical c s) (hcanonical' : IsCanonical c' s')
    (h : CanonicalRequest.of c s = .ok r) (h' : CanonicalRequest.of c' s' = .ok r') :
    r.render = r'.render ↔ SameForm c c' s s' := by
  have hform : FormOf c s r := formOf_of h
  have hform' : FormOf c' s' r' := formOf_of h'
  have hmethod : r.method = r'.method ↔ s.method = s'.method := by
    rw [hform.method, hform'.method, Method.mk.injEq]
  have hpath : r.path = r'.path ↔
      canonicalPath c.manner s.path = canonicalPath c'.manner s'.path := by
    rw [hform.path, hform'.path, Except.ok.injEq]
  rw [CanonicalRequest.render_eq_iff (hform.clean hcanonical) (hform'.clean hcanonical'),
    hform.shownFields_eq_iff hform', hmethod, hpath, hform.query, hform'.query, hform.payload,
    hform'.payload]
  constructor
  · rintro ⟨hmethod, hpath, hquery, ⟨hnames, hvalues⟩, hpayload⟩
    exact ⟨hmethod, hpath, hquery, hnames, hvalues, hpayload⟩
  · intro h
    exact ⟨h.method, h.path, h.query, ⟨h.names, h.values⟩, h.payload⟩

/-- A value that spells the rest of a query does not pass for two parameters. -/
theorem render_eq_iff_sameForm_spelledQuery : ∃ (parts s s' : Signable) (r r' : CanonicalRequest),
    prepare listing { parts with query := [("prefix", "a&max-keys=2")] } = .ok s ∧
    prepare listing { parts with query := [("prefix", "a"), ("max-keys", "2")] } = .ok s' ∧
    CanonicalRequest.of listing s = .ok r ∧ CanonicalRequest.of listing s' = .ok r' ∧
    r.render ≠ r'.render := by
  obtain ⟨parts, headers, hparts, hheaders, hreadable⟩ := canSign_listing.fields
  have hpath : ∃ path, canonicalPath listing.manner parts.path = .ok path :=
    path_of_ofUri hparts ▸ canSign_listing.path
  -- the fields do not depend on the query
  obtain ⟨hs, r, hr⟩ := exists_prepare
    { parts with query := [("prefix", "a&max-keys=2")] } hheaders hreadable hpath
  obtain ⟨hs', r', hr'⟩ := exists_prepare
    { parts with query := [("prefix", "a"), ("max-keys", "2")] } hheaders hreadable hpath
  refine ⟨parts, _, _, r, r', hs, hs', hr, hr', fun heq => ?_⟩
  have hsame := (render_eq_iff_sameForm (isCanonical_of_prepare hs) (isCanonical_of_prepare hs')
    hr hr').mp heq
  -- the two queries would have to be of one length
  have hlength := congrArg List.length hsame.query
  rw [withFields, withFields, canonicalQuery, canonicalQuery, List.length_mergeSort,
    List.length_mergeSort] at hlength
  cases hlength

end AwsSigning.Signing
