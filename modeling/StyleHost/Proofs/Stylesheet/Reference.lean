import StyleHost.Proofs.Stylesheet.Instruction

/-!
# References read back as they were written

A document that makes a reference in an `xml-stylesheet` instruction before its element is found to
make just that one. It does not matter how the instruction is laid out, what stands before it as
long as that makes no reference itself, and what follows it as long as it can be read.

* `Refers` : the first reference that a readable text makes.
* `IsProlog` : what may stand before the instruction.
* `find_document` : the reference is read back.
-/

namespace StyleHost

namespace Stylesheet

open Text Xml

variable {b : UInt8} {bytes rest content : Bytes} {e : Xml.Event} {cs : List Char}
  {found : Option String}

/-! ### Reading without places -/

/-- The first reference among events, wherever they end. -/
def reference (depth : Nat) : List Xml.Event → Option String
  | [] => none
  | e :: es =>
    let here := if depth = 0 then hrefOfEvent e else none
    here.or (reference (depthAfter depth e) es)

theorem firstHref_eq (depth : Nat) (es : List Located) :
    firstHref depth es = reference depth (es.map Located.event) := by
  induction es generalizing depth with
  | nil => rfl
  | cons e es ih => rw [firstHref, List.map_cons, reference, ih]

/-- A text outside of all elements can be read to its end, and the first reference that it makes
is `found`. -/
def Refers (text : Bytes) (found : Option String) : Prop :=
  ∃ es, Reads [] text es ∧ reference 0 es = found

theorem find_eq_ok_iff : find bytes = .ok found ↔ Refers (withoutMark bytes) found := by
  simp only [Refers, reads_iff_scan, find, firstHref_eq]
  cases (scan bytes).fault with
  | some fault => exact ⟨(nomatch ·), fun ⟨_, h, _⟩ => nomatch h.1⟩
  | none =>
    refine ⟨fun h => ⟨_, ⟨rfl, rfl⟩, Except.ok.inj h⟩, ?_⟩
    rintro ⟨_, ⟨-, rfl⟩, rfl⟩
    rfl

theorem Refers.text (hb : isMarkup b = false) (h : Refers rest found) :
    Refers (b :: rest) found := by
  obtain ⟨es, hreads, rfl⟩ := h
  obtain ⟨content, tail, htext, rfl | ⟨shorter, rfl⟩⟩ := hreads.cons_text hb
  · exact ⟨_, htext, rfl⟩
  · exact ⟨_, htext, rfl⟩

theorem Refers.skip {piece : Bytes} (hpiece : IsPiece piece e) (hdepth : depthAfter 0 e = 0)
    (he : hrefOfEvent e = none) (h : Refers rest found) : Refers (piece ++ rest) found := by
  obtain ⟨es, hreads, rfl⟩ := h
  refine ⟨_, hpiece.reads hreads, ?_⟩
  rw [reference, if_pos rfl, he, hdepth, Option.none_or]

/-- The first reference counts. -/
theorem Refers.met {piece : Bytes} {href : String} (hpiece : IsPiece piece e)
    (he : hrefOfEvent e = some href) (h : Refers rest found) :
    Refers (piece ++ rest) (some href) := by
  obtain ⟨es, hreads, -⟩ := h
  refine ⟨_, hpiece.reads hreads, ?_⟩
  rw [reference, if_pos rfl, he, Option.some_or]

/-- What a byte order mark is. -/
theorem withoutMark_cases (bytes : Bytes) : withoutMark bytes = bytes ∨
    ∃ rest, bytes = 0xEF :: 0xBB :: 0xBF :: rest ∧ withoutMark bytes = rest := by
  unfold withoutMark
  split
  · exact .inr ⟨_, rfl, rfl⟩
  · exact .inl rfl

/-- What can be read as a text of its own can be read within another one, where a byte order mark
is text. -/
theorem refers_of_scan (h : (scan rest).fault = none) : ∃ found, Refers rest found := by
  have hread : Refers (withoutMark rest) (reference 0 (eventsOf rest)) :=
    ⟨_, reads_iff_scan.2 ⟨h, rfl⟩, rfl⟩
  rcases withoutMark_cases rest with hrest | ⟨tail, rfl, hrest⟩
  · exact ⟨_, hrest ▸ hread⟩
  · rw [hrest] at hread
    exact ⟨_, ((hread.text (by decide)).text (by decide)).text (by decide)⟩

/-! ### Prologs -/

/-- What may stand before the instruction that makes the reference. -/
inductive IsProlog : Bytes → Prop
  | nil : IsProlog []
  /-- Blanks, or any other text without markup. -/
  | text {b : UInt8} {prolog : Bytes} (hb : isMarkup b = false) (h : IsProlog prolog) :
    IsProlog (b :: prolog)
  | comment {content prolog : Bytes} (hclose : ¬codes "-->" <:+: content) (h : IsProlog prolog) :
    IsProlog (comment content ++ prolog)
  /-- The declaration of the document, or an instruction for another purpose. -/
  | other {content prolog : Bytes} (hclose : ¬codes "?>" <:+: code '?' :: content)
    (htarget : target content ≠ codes "xml-stylesheet") (h : IsProlog prolog) :
    IsProlog (instruction content ++ prolog)
  /-- An instruction for another kind of stylesheet, or one without a reference. -/
  | unfit {content prolog : Bytes} (hclose : ¬codes "?>" <:+: code '?' :: content)
    (htarget : target content = codes "xml-stylesheet")
    (hunfit : ∀ cs, Utf8.decodeChars (body content) = .ok cs → Unfit (Attributes.parse cs))
    (h : IsProlog prolog) : IsProlog (instruction content ++ prolog)

/-- A prolog makes no reference. -/
theorem IsProlog.refers {prolog : Bytes} (hprolog : IsProlog prolog) (h : Refers rest found) :
    Refers (prolog ++ rest) found := by
  induction hprolog with
  | nil => exact h
  | text hb _ ih => exact ih.text hb
  | comment hclose _ ih =>
    rw [List.append_assoc]
    exact ih.skip (isPiece_comment hclose) rfl rfl
  | other hclose htarget _ ih =>
    rw [List.append_assoc]
    exact ih.skip (isPiece_instruction hclose) depthAfter_instructionOf
      (hrefOfEvent_of_target htarget)
  | unfit hclose htarget hunfit _ ih =>
    rw [List.append_assoc]
    exact ih.skip (isPiece_instruction hclose) depthAfter_instructionOf
      (hrefOfEvent_of_unfit htarget hunfit)

theorem isProlog_text (hb : isMarkup b = false) {prolog : Bytes} :
    IsProlog (b :: prolog) ↔ IsProlog prolog := by
  refine ⟨fun h => ?_, .text hb⟩
  -- all other parts of a prolog start with markup
  generalize hbytes : b :: prolog = bytes at h
  cases h with
  | nil => cases hbytes
  | text _ h =>
    cases hbytes
    exact h
  | comment | other | unfit =>
    obtain rfl := (List.cons.inj hbytes).1
    exact absurd hb (by decide)

/-- A prolog may start with a byte order mark. -/
theorem IsProlog.withoutMark_append {prolog : Bytes} (h : IsProlog prolog) (rest : Bytes) :
    ∃ prolog', IsProlog prolog' ∧
      withoutMark (prolog ++ code '<' :: rest) = prolog' ++ code '<' :: rest := by
  rcases withoutMark_cases (prolog ++ code '<' :: rest) with hsame | ⟨tail, hmark, hrest⟩
  · exact ⟨prolog, h, hsame⟩
  rw [hrest]
  -- no byte of the mark opens markup, so that the prolog holds all of it or none
  match prolog, h, hmark with
  | [], _, hmark => exact absurd (List.cons.inj hmark).1 (by decide)
  | [_], _, hmark => exact absurd (List.cons.inj (List.cons.inj hmark).2).1 (by decide)
  | [_, _], _, hmark =>
    exact absurd (List.cons.inj (List.cons.inj (List.cons.inj hmark).2).2).1 (by decide)
  | _ :: _ :: _ :: prolog, h, hmark =>
    cases hmark
    rw [isProlog_text (by decide), isProlog_text (by decide), isProlog_text (by decide)] at h
    exact ⟨prolog, h, rfl⟩

/-! ### Documents -/

/-- **References are read back**: the first reference that a document makes is the one that was
written into it. -/
theorem find_document {prolog : Bytes} (hprolog : IsProlog prolog) (l : Layout) {type href : String}
    (htype : IsXsltType type) (hhref : href ≠ "") (hrest : (scan rest).fault = none) :
    find (prolog ++ Utf8.encode (l.write type href) ++ rest) = .ok (some href) := by
  obtain ⟨later, hlater⟩ := refers_of_scan hrest
  have hmet : Refers (Utf8.encode (l.write type href) ++ rest) (some href) :=
    hlater.met (l.isPiece_write htype href) (l.hrefOfEvent_content htype hhref)
  have hopen : ∃ tail, Utf8.encode (l.write type href) ++ rest = code '<' :: tail := by
    rw [l.encode_write]
    exact ⟨_, rfl⟩
  obtain ⟨tail, htail⟩ := hopen
  obtain ⟨prolog', hprolog', hmark⟩ := hprolog.withoutMark_append tail
  rw [find_eq_ok_iff, List.append_assoc, htail, hmark]
  rw [htail] at hmet
  exact hprolog'.refers hmet

/-! ### A document with near misses -/

/-- A prolog with everything that looks like a reference and is none. -/
def nearMisses : Bytes :=
  instruction (codes "xml version='1.0'") ++ (code '\n' ::
    (comment (codes "-- <?xml-stylesheet type='text/xsl' href='no.xsl'?> --") ++
      (instruction (codes "xml-stylesheets type='text/xsl' href='no.xsl'") ++
        (instruction (codes "xml-stylesheet type='text/css' href='no.css'") ++
          (instruction (codes "xml-stylesheet href='' type='text/xsl'") ++ [])))))

/-- The reference first, with blanks in all places. -/
def spaced : Layout where
  space := '\n'
  leading := [' ', '\u00A0']
  between := []
  trailing := ['\t']
  type := ⟨[' '], ['\u2003'], '\'', List.all_eq_true.1 (by decide), List.all_eq_true.1 (by decide),
    by decide⟩
  href := ⟨[], [' ', '\n'], '"', nofun, List.all_eq_true.1 (by decide), by decide⟩
  hrefFirst := true
  space_isXmlSpace := by decide
  leading_blank := List.all_eq_true.1 (by decide)
  between_blank := nofun
  trailing_blank := List.all_eq_true.1 (by decide)

theorem unfit_of_parse {attributes : List Attribute} (hunfit : Unfit attributes)
    (h : (Utf8.decodeChars (body content)).toOption.map Attributes.parse = some attributes)
    (cs : List Char) (hcs : Utf8.decodeChars (body content) = .ok cs) :
    Unfit (Attributes.parse cs) := by
  rw [hcs] at h
  exact Option.some.inj h ▸ hunfit

theorem isProlog_nearMisses : IsProlog nearMisses := by
  have hcss : Unfit [⟨"type".toList, "text/css".toList⟩, ⟨"href".toList, "no.css".toList⟩] :=
    .inl (by decide)
  have hempty : Unfit [⟨"href".toList, []⟩, ⟨"type".toList, "text/xsl".toList⟩] :=
    .inr (by decide)
  exact .other (by decide +kernel) (by decide +kernel) (.text (by decide) (.comment
    (by decide +kernel) (.other (by decide +kernel) (by decide +kernel) (.unfit (by decide +kernel)
      (by decide +kernel) (unfit_of_parse hcss (by decide +kernel)) (.unfit (by decide +kernel)
        (by decide +kernel) (unfit_of_parse hempty (by decide +kernel)) .nil)))))

theorem find_document_nearMisses :
    find (nearMisses ++ Utf8.encode (spaced.write "Text/XSL" "a&lt;?>'\"<&.xsl") ++
      codes "<r><?xml-stylesheet type='text/xsl' href='no.xsl'?></r>") =
        .ok (some "a&lt;?>'\"<&.xsl") :=
  find_document isProlog_nearMisses spaced (.inl (by decide +kernel)) (by decide)
    (by decide +kernel)

end Stylesheet

end StyleHost
