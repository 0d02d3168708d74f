import StyleHost.Proofs.Stylesheet.Attributes
import StyleHost.Proofs.Stylesheet.Unescape
import StyleHost.Proofs.Text.Utf8
import StyleHost.Proofs.Xml.Pieces
import StyleHost.Stylesheet.Reference

/-!
# What an instruction refers to

An `xml-stylesheet` instruction makes a reference if it has a type of XSLT and an `href` that is not
empty. What it refers to does not depend on how it is laid out.

* `Unfit` : pseudo-attributes that make no reference.
* `IsXsltType` : the media types of XSLT.
* `Layout` : the ways to lay out an instruction that makes one.
* `Layout.hrefOfEvent_content` : the reference is read back.
-/

namespace StyleHost

namespace Stylesheet

open Text Xml

section

variable {content : Bytes} {cs : List Char}

/-! ### Instructions -/

/-- The name that an instruction starts with. -/
def target (content : Bytes) : Bytes := content.takeWhile (!isXmlSpaceByte ·)

/-- What an instruction holds after its name. -/
def body (content : Bytes) : Bytes := content.drop (target content).length

theorem depthAfter_instructionOf : depthAfter 0 (instructionOf content) = 0 := by
  rw [instructionOf]
  split <;> rfl

theorem instructionOf_stylesheet (h : target content = codes "xml-stylesheet") :
    instructionOf content = .instruction (codes "xml-stylesheet") (body content) := by
  change (if target content = codes "xml" then Event.declaration
    else .instruction (target content) (body content)) = _
  rw [h, if_neg (by decide)]

/-- What an `xml-stylesheet` instruction refers to. -/
theorem hrefOfEvent_stylesheet (htarget : target content = codes "xml-stylesheet")
    (hbody : Utf8.decodeChars (body content) = .ok cs) :
    hrefOfEvent (instructionOf content) = hrefOf cs := by
  rw [instructionOf_stylesheet htarget, hrefOfEvent, if_pos rfl, hbody]

theorem hrefOfEvent_of_target (h : target content ≠ codes "xml-stylesheet") :
    hrefOfEvent (instructionOf content) = none := by
  change hrefOfEvent (if target content = codes "xml" then .declaration
    else .instruction (target content) (body content)) = none
  split
  · rfl
  · rw [hrefOfEvent, if_neg h]

/-- Pseudo-attributes that make no reference to an XSLT stylesheet. -/
def Unfit (attributes : List Attribute) : Prop :=
  (∀ type, Attributes.find? attributes "type" = some type → isXslt type = false) ∨
    ∀ href, Attributes.find? attributes "href" = some href → href = []

theorem hrefOf_of_unfit (h : Unfit (Attributes.parse cs)) : hrefOf cs = none := by
  rw [hrefOf]
  split
  · rename_i type href htype hhref
    rcases h with h | h
    · rw [h type htype]
      rfl
    · rw [h href hhref]
      exact if_neg (by simp)
  · rfl

theorem hrefOfEvent_of_unfit (htarget : target content = codes "xml-stylesheet")
    (hunfit : ∀ cs, Utf8.decodeChars (body content) = .ok cs → Unfit (Attributes.parse cs)) :
    hrefOfEvent (instructionOf content) = none := by
  cases hbody : Utf8.decodeChars (body content) with
  | error fault => rw [instructionOf_stylesheet htarget, hrefOfEvent, if_pos rfl, hbody]
  | ok cs => rw [hrefOfEvent_stylesheet htarget hbody, hrefOf_of_unfit (hunfit cs hbody)]

end

/-! ### Media types -/

section

variable {type : String}

/-- A media type of XSLT, in any case. -/
def IsXsltType (type : String) : Prop :=
  eqIgnoreCase type "text/xsl" = true ∨ eqIgnoreCase type "application/xslt+xml" = true

theorem IsXsltType.isXslt (h : IsXsltType type) : isXslt type.toList = true := by
  rw [Stylesheet.isXslt, String.ofList_toList]
  rcases h with h | h <;> simp [xsltTypes, h]

/-- Neither quotes nor the end of the instruction can be in a media type. -/
theorem IsXsltType.not_mem (h : IsXsltType type) {c : Char} (hc : c = '"' ∨ c = '\'' ∨ c = '>') :
    c ∉ type.toList := by
  intro hmem
  have hlower := List.mem_map_of_mem (f := lowerAscii) hmem
  rcases h with h | h
  · rw [eqIgnoreCase_iff.1 h] at hlower
    rcases hc with rfl | rfl | rfl <;> exact absurd hlower (by decide)
  · rw [eqIgnoreCase_iff.1 h] at hlower
    rcases hc with rfl | rfl | rfl <;> exact absurd hlower (by decide)

end

/-! ### The instruction that makes the reference -/

/-- The ways to lay out an `xml-stylesheet` instruction with a type and a reference: the blanks
between its parts, the spelling of the two pseudo-attributes, and which of them comes first. The
target ends at a blank of XML; all other blanks may be any. -/
structure Layout where
  space : Char
  leading : List Char
  between : List Char
  trailing : List Char
  type : Attributes.Spelling
  href : Attributes.Spelling
  hrefFirst : Bool
  space_isXmlSpace : isXmlSpace space = true
  leading_blank : ∀ c ∈ leading, isBlank c = true
  between_blank : ∀ c ∈ between, isBlank c = true
  trailing_blank : ∀ c ∈ trailing, isBlank c = true

namespace Layout

variable (l : Layout) {type href : String}

/-- The pseudo-attributes with the blanks around them. -/
def attributes (type href : String) : List Char :=
  let type := l.type.write ⟨"type".toList, type.toList⟩
  let href := l.href.write ⟨"href".toList, escape href.toList⟩
  l.leading ++ (if l.hrefFirst then href ++ (l.between ++ type) else type ++ (l.between ++ href)) ++
    l.trailing

/-- The instruction. -/
def write (type href : String) : String :=
  "<?xml-stylesheet" ++ String.ofList (l.space :: l.attributes type href) ++ "?>"

/-- The content of the instruction. -/
def content (type href : String) : Bytes :=
  codes "xml-stylesheet" ++ Utf8.encode (String.ofList (l.space :: l.attributes type href))

theorem encode_write : Utf8.encode (l.write type href) = instruction (l.content type href) := by
  have hopen : Utf8.encode "<?xml-stylesheet" = codes "<?" ++ codes "xml-stylesheet" := by
    rw [Utf8.encode_eq]
    decide
  have hclose : Utf8.encode "?>" = codes "?>" := by
    rw [Utf8.encode_eq]
    decide
  unfold write
  rw [Utf8.encode_append, Utf8.encode_append, hopen, hclose, instruction, content]
  simp only [List.append_assoc]

/-! ### What is found in the instruction -/

theorem quote_cases (s : Attributes.Spelling) : s.quote = '"' ∨ s.quote = '\'' := by
  have hquote := s.quote_isQuote
  rwa [Attributes.isQuote, Bool.or_eq_true, beq_iff_eq, beq_iff_eq] at hquote

theorem parse_attributes (htype : IsXsltType type) (href : String) :
    Attributes.parse (l.space :: l.attributes type href) =
      if l.hrefFirst then [⟨"href".toList, escape href.toList⟩, ⟨"type".toList, type.toList⟩]
      else [⟨"type".toList, type.toList⟩, ⟨"href".toList, escape href.toList⟩] := by
  have hleading : ∀ c ∈ l.space :: l.leading, isBlank c = true :=
    List.forall_mem_cons.2 ⟨isXmlSpace_isBlank l.space_isXmlSpace, l.leading_blank⟩
  have htypeEntry : Attributes.IsName "type".toList ∧ l.type.quote ∉ type.toList :=
    ⟨.of_all (by decide) (by decide),
      htype.not_mem ((quote_cases l.type).imp_right .inl)⟩
  have hhrefEntry : Attributes.IsName "href".toList ∧ l.href.quote ∉ escape href.toList := by
    have hquote : l.href.quote ≠ '&' ∧ l.href.quote ∈ predefined.map Prod.fst := by
      rcases quote_cases l.href with h | h <;> rw [h] <;> decide
    exact ⟨.of_all (by decide) (by decide), not_mem_escape hquote.1 hquote.2 _⟩
  rw [attributes, ← List.cons_append, ← List.cons_append]
  cases l.hrefFirst with
  | true =>
    exact Attributes.parse_two hleading l.between_blank l.trailing_blank hhrefEntry htypeEntry
  | false =>
    exact Attributes.parse_two hleading l.between_blank l.trailing_blank htypeEntry hhrefEntry

theorem hrefOf_attributes (htype : IsXsltType type) (hhref : href ≠ "") :
    hrefOf (l.space :: l.attributes type href) = some href := by
  have hfound : Attributes.find? (Attributes.parse (l.space :: l.attributes type href)) "type" =
      some type.toList ∧
      Attributes.find? (Attributes.parse (l.space :: l.attributes type href)) "href" =
        some (escape href.toList) := by
    rw [l.parse_attributes htype href]
    cases l.hrefFirst <;> exact ⟨rfl, rfl⟩
  have hne : escape href.toList ≠ [] := escape_ne_nil (mt String.toList_eq_nil_iff.1 hhref)
  rw [hrefOf, hfound.1, hfound.2]
  dsimp only
  rw [htype.isXslt, List.isEmpty_eq_false_iff.2 hne, unescape_escape, String.ofList_toList]
  rfl

/-! ### Where the instruction ends -/

theorem not_mem_of_blank {cs : List Char} (h : ∀ c ∈ cs, isBlank c = true) : '>' ∉ cs :=
  fun hmem => absurd (h _ hmem) (by decide)

theorem not_mem_spelling (s : Attributes.Spelling) {name value : List Char} (hname : '>' ∉ name)
    (hvalue : '>' ∉ value) : '>' ∉ s.write ⟨name, value⟩ := by
  have hquote : '>' ≠ s.quote := by
    rcases quote_cases s with h | h <;> rw [h] <;> decide
  have hequals : '>' ≠ '=' := by decide
  simp only [Attributes.Spelling.write, List.mem_append, List.mem_cons, List.not_mem_nil,
    not_mem_of_blank s.before_blank, not_mem_of_blank s.after_blank, hname, hvalue, hquote, hequals,
    or_false, not_false_eq_true]

theorem not_mem_attributes (htype : IsXsltType type) (href : String) :
    '>' ∉ l.space :: l.attributes type href := by
  have hspace : '>' ≠ l.space := fun h => absurd (h ▸ l.space_isXmlSpace) (by decide)
  have htypeEntry : '>' ∉ l.type.write ⟨"type".toList, type.toList⟩ :=
    not_mem_spelling l.type (by decide) (htype.not_mem (.inr (.inr rfl)))
  have hhrefEntry : '>' ∉ l.href.write ⟨"href".toList, escape href.toList⟩ :=
    not_mem_spelling l.href (by decide) (not_mem_escape (by decide) (by decide) _)
  rw [attributes]
  split <;>
    simp only [List.mem_cons, List.mem_append, hspace, htypeEntry, hhrefEntry,
      not_mem_of_blank l.leading_blank, not_mem_of_blank l.between_blank,
      not_mem_of_blank l.trailing_blank, or_self, not_false_eq_true]

theorem not_mem_content (htype : IsXsltType type) (href : String) :
    code '>' ∉ l.content type href := by
  rw [content, List.mem_append, not_or]
  refine ⟨by decide, fun hmem => ?_⟩
  have hchar := Utf8.mem_of_mem_encode hmem (by decide)
  rw [String.toList_ofList] at hchar
  exact l.not_mem_attributes htype href hchar

/-- **The instruction is one piece**, whatever it refers to. -/
theorem isPiece_write (htype : IsXsltType type) (href : String) :
    IsPiece (Utf8.encode (l.write type href)) (instructionOf (l.content type href)) := by
  rw [encode_write]
  -- what would close the instruction early has a `>` in it, and the content has none
  refine isPiece_instruction fun hclose => ?_
  rcases List.mem_cons.1 (hclose.subset (a := code '>') (by decide)) with hmem | hmem
  · exact absurd hmem (by decide)
  · exact l.not_mem_content htype href hmem

/-! ### What the instruction refers to -/

theorem target_content (type href : String) :
    target (l.content type href) = codes "xml-stylesheet" := by
  have hspace : ∃ b, String.utf8EncodeChar l.space = [b] ∧ isXmlSpaceByte b = true := by
    have hspace := l.space_isXmlSpace
    simp only [isXmlSpace, Bool.or_eq_true, beq_iff_eq] at hspace
    rcases hspace with ((h | h) | h) | h <;> rw [h] <;> exact ⟨_, rfl, rfl⟩
  obtain ⟨b, hencode, hb⟩ := hspace
  have hname : ∀ b ∈ codes "xml-stylesheet", (!isXmlSpaceByte b) = true :=
    List.all_eq_true.1 (by decide)
  rw [target, content, Utf8.encode_ofList, List.flatMap_cons, hencode, List.singleton_append,
    List.takeWhile_append_of_pos hname, List.takeWhile_cons_of_neg (by simp [hb]), List.append_nil]

theorem body_content (type href : String) : body (l.content type href) =
    Utf8.encode (String.ofList (l.space :: l.attributes type href)) := by
  rw [body, target_content, content, List.drop_left]

/-- **The reference is read back.** -/
theorem hrefOfEvent_content (htype : IsXsltType type) (hhref : href ≠ "") :
    hrefOfEvent (instructionOf (l.content type href)) = some href := by
  have hbody : Utf8.decodeChars (body (l.content type href)) =
      .ok (l.space :: l.attributes type href) := by
    rw [body_content, Utf8.decodeChars_encode, String.toList_ofList]
  rw [hrefOfEvent_stylesheet (l.target_content type href) hbody, l.hrefOf_attributes htype hhref]

end Layout

end Stylesheet

end StyleHost
