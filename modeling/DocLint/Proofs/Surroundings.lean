import DocLint.Proofs.OwnPlaces
import DocLint.Proofs.RepairedReview

/-!
# The code around comments

Checking doc comments reads the texts inside them and, of the code around them, the names that
functions, their parameters and the declarations themselves have. No other text is ever looked at.
This module proves it: two sources that differ in other texts only are reported alike, down to the
fault if there is one.

A comment is read between its ends. So it is enough that the two sources have the same tokens there,
and `Slot.SameBetween` carries this through all parts of a comment. The rest is kinds, lines and
references, which the two sources share.
-/

namespace DocLint

open Check

/-- Steps that are the same for every item are the same in sequence. -/
theorem mapM_eq_mapM {α β : Type} {step step' : α → Except Fault β} {items : List α}
    (hstep : ∀ item ∈ items, step' item = step item) : items.mapM step' = items.mapM step := by
  induction items with
  | nil => rfl
  | cons item items ih =>
    rw [List.mapM_cons, List.mapM_cons, hstep item List.mem_cons_self,
      ih fun other hother => hstep other (List.mem_cons_of_mem item hother)]

/-! ## Comments whose tokens stay -/

/-- The slots differ in their texts only, and not at all strictly between two positions. -/
def Slot.SameBetween (low high : Int) (slot slot' : Slot) : Prop :=
  slot.Alike slot' ∧ (low < slot.position → slot.position < high → slot' = slot)

namespace Source

variable {source source' : Source}

/-- Slots between two positions from the front stand there. -/
theorem bounds_of_mem_between {start stop : Int} (hstart : 0 ≤ start) (hstop : 0 ≤ stop)
    {slot : Slot} (hslot : slot ∈ source.between start stop) :
    start ≤ slot.position ∧ slot.position < stop := by
  obtain ⟨index, hindex, rfl⟩ := List.mem_iff_getElem.mp hslot
  have hlow : source.bound start = min start.toNat source.size := if_neg (by omega)
  have hhigh : source.bound stop = min stop.toNat source.size := if_neg (by omega)
  have hlength : source.slots.length = source.size := by simp [slots, size]
  simp only [between, List.length_drop, List.length_take] at hindex
  simp only [between, List.getElem_drop, List.getElem_take, slots, List.getElem_mapIdx]
  omega

variable {low high : Int} (hsame : source.Corresponds (Slot.SameBetween low high) source')

include hsame

theorem alike_of_sameBetween : source.Alike source' :=
  hsame.mono fun _ _ hslot => hslot.1

theorem token?_eq_of_sameBetween {position : Int} (hlow : low < position)
    (hhigh : position < high) : source'.token? position = source.token? position := by
  have hrel := hsame.token?_rel position
  apply eq_of_optionRel hrel
  intro token _ token' hslot
  exact (Slot.mk.inj (hslot.2 hlow hhigh)).2

theorem stretch_eq_of_sameBetween {start stop : Int} (hlow : low < start) (hhigh : stop ≤ high) :
    source'.stretch start stop = source.stretch start stop := by
  obtain ⟨hslots, hmissing⟩ := hsame.stretch_rel start stop
  have hequal : (source'.stretch start stop).slots = (source.stretch start stop).slots := by
    apply eq_of_forall₂ hslots
    intro slot hslot slot' hrel
    obtain ⟨-, hstart, hstop⟩ := mem_stretch hslot
    exact hrel.2 (by omega) (by omega)
  exact congrArg₂ Stretch.mk hequal hmissing

theorem text_eq_of_sameBetween (hfront : 0 ≤ low) (hordered : low < high) :
    source'.text (low + 1) high = source.text (low + 1) high := by
  have hequal : source'.between (low + 1) high = source.between (low + 1) high := by
    apply eq_of_forall₂ (hsame.between_rel (low + 1) high)
    intro slot hslot slot' hrel
    obtain ⟨hstart, hstop⟩ := bounds_of_mem_between (by omega) (by omega) hslot
    exact hrel.2 (by omega) hstop
  rw [text_eq_join, text_eq_join, hequal]

end Source

section Reading

variable {source source' : Source} {low high : Int}
variable (hsame : source.Corresponds (Slot.SameBetween low high) source')

include hsame

theorem Block.content?_eq {start : Int} (hlow : low < start) :
    content? source' start high = content? source start high := by
  have hrel := hsame.next?_rel (Source.alike_of_sameBetween hsame) (fun kind => !kind.isFiller)
    start (some high)
  apply eq_of_optionRel hrel
  intro slot hslot slot' hrel
  obtain ⟨hstart, hstop⟩ := bounds_of_content? hslot
  exact hrel.2 (by omega) hstop

theorem Span.read_eq {first : Slot} (hlow : low ≤ first.position) :
    Span.read source' first high = Span.read source first high := by
  simp only [Span.read, Source.stretch_eq_of_sameBetween hsame
    (show low < first.position + 1 by omega) (Int.le_refl high)]

theorem Block.description?_eq {first? : Option Slot}
    (hlow : ∀ first ∈ first?, low ≤ first.position) :
    description? source' first? high = description? source first? high := by
  cases first? with
  | none => rfl
  | some first => simp only [description?, Span.read_eq hsame (hlow first rfl)]

theorem Block.longDescription?_eq {short? : Option Span}
    (hlow : ∀ short ∈ short?, low ≤ short.last.position) :
    longDescription? source' short? high = longDescription? source short? high := by
  cases short? with
  | none => rfl
  | some short =>
    have hlast := hlow short rfl
    have hfound : ∀ first ∈ content? source (short.last.position + 1) high,
        low ≤ first.position := by
      intro first hfirst
      have hstart := (bounds_of_content? hfirst).1
      omega
    simp only [longDescription?, content?_eq hsame (show low < short.last.position + 1 by omega),
      description?_eq hsame hfound]

theorem Tag.read_eq {position stop : Int} (hlow : low < position) (hhigh : position < high)
    (hstop : stop ≤ high) : Tag.read source' position stop = Tag.read source position stop := by
  simp only [Tag.read, Source.get, Source.token?_eq_of_sameBetween hsame hlow hhigh,
    Source.stretch_eq_of_sameBetween hsame (show low < position + 1 by omega) hstop]

theorem Tag.readAll_eq {positions : List Int}
    (hbetween : ∀ position ∈ positions, low < position ∧ position < high) :
    Tag.readAll source' positions high = Tag.readAll source positions high := by
  apply mapM_eq_mapM
  rintro ⟨position, stop⟩ hpair
  obtain ⟨hposition, hstop⟩ := List.of_mem_zip hpair
  have hbound : stop ≤ high := by
    rcases List.mem_append.mp hstop with htail | hlast
    · exact Int.le_of_lt (hbetween stop (List.mem_of_mem_tail htail)).2
    · exact Int.le_of_eq (List.mem_singleton.mp hlast)
  exact Tag.read_eq hsame (hbetween position hposition).1 (hbetween position hposition).2 hbound

/-- **A comment is read between its ends.** -/
theorem Block.read_eq {token : Token} (hat : source.token? low = some token)
    (hkind : token.kind = .docOpen) (hcloser : token.closer? = some high)
    (hfront : 0 ≤ low) (hordered : low < high)
    (hbetween : ∀ position ∈ token.tagPositions, low < position ∧ position < high) :
    Block.read source' low = Block.read source low := by
  obtain ⟨token', hat', hslot, -⟩ := hsame.token? low token hat
  have hkind' : token'.kind = .docOpen := hslot.kind_eq.trans hkind
  have hcloser' : token'.closer? = some high := hslot.closer?_eq.trans hcloser
  have htags' : token'.tagPositions = token.tagPositions := hslot.tagPositions_eq
  have hfirst : ∀ first ∈ content? source (low + 1) high, low ≤ first.position := by
    intro first hfound
    have hstart := (bounds_of_content? hfound).1
    omega
  unfold Block.read
  rw [Source.get_eq_ok_iff.mpr hat, Source.get_eq_ok_iff.mpr hat']
  simp only [bind, Except.bind, hkind, hkind', hcloser, hcloser', htags',
    content?_eq hsame (show low < low + 1 by omega), description?_eq hsame hfirst,
    Tag.readAll_eq hsame hbetween, Source.text_eq_of_sameBetween hsame hfront hordered]
  cases hshort : description? source (content? source (low + 1) high) high with
  | error fault => rfl
  | ok short? =>
    have hlast : ∀ short ∈ short?, low ≤ short.last.position := by
      rintro short rfl
      have hforward := Span.le_position_last (read_of_description? hshort)
      have hstart := hfirst _ (first_of_description? hshort)
      omega
    simp only [longDescription?_eq hsame hlast]

end Reading

/-! ## Reviews of comments that stay -/

/-- A comment that stays as it is has been repaired by no edits. -/
theorem Block.repaired_nil (block : Block) : Block.Repaired [] block block := by
  have hslot : ∀ slot : Slot, Slot.Rewrites (Edit.Writes []) slot slot := fun _ => Or.inl rfl
  have hspan : ∀ span : Span, Span.Rewrites (Edit.Writes []) span span :=
    fun span => ⟨hslot _, List.forall₂_same.mpr fun slot _ => hslot slot⟩
  have htag : ∀ tag : Tag, Tag.Rewrites (Edit.Writes []) tag tag := by
    intro tag
    refine ⟨⟨⟨tag.position, ⟨.docTag, tag.name, tag.line, none, none, []⟩⟩, _, hslot _, rfl, rfl⟩,
      rfl, rfl, ?_⟩
    cases tag.inline? with
    | none => exact .none
    | some inline =>
      exact .some ⟨⟨inline.position, ⟨.docString, inline.text, tag.line, none, none, []⟩⟩, _,
        hslot _, rfl, rfl⟩
  have hoption : ∀ {α : Type} {rel : α → α → Prop} (value? : Option α), (∀ value, rel value value) →
      Option.Rel rel value? value? := by
    intro α rel value? hrefl
    cases value? with
    | none => exact .none
    | some value => exact .some (hrefl value)
  refine ⟨⟨rfl, rfl, hoption _ hslot, hoption _ hspan, hoption _ hspan, ?_⟩, rfl, rfl, rfl, rfl, ?_⟩
  · exact List.forall₂_same.mpr fun tag _ => htag tag
  · exact List.forall₂_same.mpr fun tag _ => .kept fun _ _ => rfl

/-- A review finds the same in two sources that share its comment and what it asks of the code. -/
theorem Subject.review_on {subject : Subject} {site : Site} {source' : Source}
    (halike : site.source.Alike source') {block : Block} (hstands : block.Stands site.source)
    (hanchor : subject = .classLike → source'.get site.anchor = site.source.get site.anchor)
    (hname : site.signatures.name? source' site.anchor =
      site.signatures.name? site.source site.anchor)
    (hparameters : site.signatures.parameters source' site.anchor =
      site.signatures.parameters site.source site.anchor) :
    subject.review (site.on source') .builtIn block = subject.review site .builtIn block := by
  have hrepaired := block.repaired_nil
  cases subject with
  | file => exact Review.file_on halike hrepaired
  | classLike => exact Review.classLike_on halike hrepaired (hanchor rfl)
  | function =>
    refine (Review.function_on halike hrepaired hstands hname hparameters).trans ?_
    exact without_eq_self fun _ _ => rfl

/-! ## Texts that are read -/

/-- Kinds of tokens whose texts are read wherever they stand: declarations and names. -/
def Kind.isNaming : Kind → Bool
  | classKeyword | interface | function | identifier | variableName => true
  | _ => false

/-- What declares something other than a file is such a token. -/
theorem Kind.isNaming_of_declares {kind : Kind} {subject : Subject}
    (hsubject : Subject.ofKind? kind = some subject) (hfile : subject ≠ .file) :
    kind.isNaming = true := by
  cases kind with
  | openTag => exact absurd (Option.some.inj hsubject).symm hfile
  | classKeyword | interface | function => rfl
  | _ => cases hsubject

/-- Whether a slot opens a doc comment that the position is strictly inside of. -/
def Slot.opensAround (opening : Slot) (position : Int) : Bool :=
  opening.kind == .docOpen && decide (opening.position < position) &&
    opening.token.closer?.any fun closer => decide (position < closer)

namespace Source

/-- Whether the text of a slot is read: it is inside a doc comment or names something. -/
def reads (source : Source) (slot : Slot) : Bool :=
  slot.kind.isNaming || source.slots.any fun opening => opening.opensAround slot.position

/-- The sources differ in texts only, and only in those that are not read. -/
def DifferUnread (source source' : Source) : Prop :=
  List.Forall₂ (fun slot slot' => slot.Alike slot' ∧ (source.reads slot = true → slot' = slot))
    source.slots source'.slots

theorem reads_of_isNaming {source : Source} {slot : Slot} (hnaming : slot.kind.isNaming = true) :
    source.reads slot = true := by
  rw [reads, hnaming, Bool.true_or]

theorem reads_of_opensAround {source : Source} {opening slot : Slot}
    (hopening : opening ∈ source.slots) (haround : opening.opensAround slot.position = true) :
    source.reads slot = true := by
  rw [reads, List.any_eq_true.mpr ⟨opening, hopening, haround⟩, Bool.or_true]

namespace DifferUnread

variable {source source' : Source} (hdiffer : source.DifferUnread source')

include hdiffer

theorem size_eq : source'.size = source.size := by
  simpa [slots, size] using hdiffer.length_eq.symm

/-- The tokens at a place from the front. -/
theorem exists_getElem? {index : Nat} {token : Token} (hat : source.tokens[index]? = some token) :
    ∃ token', source'.tokens[index]? = some token' ∧
      Slot.Alike ⟨index, token⟩ ⟨index, token'⟩ ∧
      (source.reads ⟨index, token⟩ = true → token' = token) := by
  obtain ⟨hindex, rfl⟩ := Array.getElem?_eq_some_iff.mp hat
  have hindex' : index < source'.tokens.size :=
    Nat.lt_of_lt_of_eq hindex hdiffer.size_eq.symm
  obtain ⟨halike, hreads⟩ := (List.forall₂_iff_get.mp hdiffer).2 index
    (by simpa [slots] using hindex) (by simpa [slots] using hindex')
  simp only [slots, List.get_eq_getElem, List.getElem_mapIdx, Array.getElem_toList] at halike hreads
  exact ⟨_, Array.getElem?_eq_getElem hindex', halike, fun hread => (Slot.mk.inj (hreads hread)).2⟩

/-- The sources correspond in whatever way two tokens at one place do. -/
theorem corresponds {rel : Slot → Slot → Prop}
    (hrel : ∀ (position : Int) (index : Nat) (token token' : Token),
      (0 ≤ position → position = index) → Slot.Alike ⟨position, token⟩ ⟨position, token'⟩ →
      (source.reads ⟨index, token⟩ = true → token' = token) →
        rel ⟨position, token⟩ ⟨position, token'⟩) :
    source.Corresponds rel source' := by
  refine ⟨hdiffer.size_eq, ?_⟩
  intro position token hat
  obtain ⟨index, hindex, hat⟩ := Option.bind_eq_some_iff.mp hat
  obtain ⟨token', hat', halike, hreads⟩ := hdiffer.exists_getElem? hat
  refine ⟨token', ?_, hrel position index token token' ?_ ?_ hreads⟩
  · rw [token?, hdiffer.size_eq, hindex, Option.bind_some, hat']
  · intro hfront
    obtain ⟨place, rfl⟩ := Int.eq_ofNat_of_zero_le hfront
    rw [resolve?_natCast hindex]
  · exact congrArg (Slot.mk position) (Slot.mk.inj halike).2

theorem alike : source.Alike source' :=
  hdiffer.corresponds fun _ _ _ _ _ halike _ => halike

theorem namesAlike : source.Corresponds Slot.NamesAlike source' := by
  apply hdiffer.corresponds
  intro position index token token' _ halike hreads
  refine ⟨halike, fun hkind => congrArg (Slot.mk position) (hreads (reads_of_isNaming ?_))⟩
  rcases hkind with hkind | hkind
  · exact congrArg Kind.isNaming hkind
  · exact congrArg Kind.isNaming hkind

/-- Inside a doc comment nothing differs. -/
theorem sameBetween {opening : Slot} (hopening : opening ∈ source.slots)
    (hkind : opening.kind = .docOpen) {closer : Int}
    (hcloser : opening.token.closer? = some closer) :
    source.Corresponds (Slot.SameBetween opening.position closer) source' := by
  apply hdiffer.corresponds
  intro position index token token' hplace halike hreads
  refine ⟨halike, fun (hlow : opening.position < position) (hhigh : position < closer) => ?_⟩
  -- What is inside a comment counts from the front, so the position is the place.
  have hfront := (bounds_of_mem_slots hopening).1
  obtain rfl := hplace (by omega)
  apply congrArg (Slot.mk _)
  apply hreads
  apply reads_of_opensAround hopening
  simp [Slot.opensAround, hkind, hcloser, hlow, hhigh]

/-- A declaration is the same token in both sources, unless it is that of a file. -/
theorem token?_eq_of_declares {position : Int} {token : Token}
    (hat : source.token? position = some token) {subject : Subject}
    (hsubject : Subject.ofKind? token.kind = some subject) (hfile : subject ≠ .file) :
    source'.token? position = some token := by
  have hnaming := Kind.isNaming_of_declares hsubject hfile
  have hnamed : source.Corresponds (fun slot slot' => slot.kind.isNaming = true → slot' = slot)
      source' :=
    hdiffer.corresponds fun position _ _ _ _ _ hreads hnaming =>
      congrArg (Slot.mk position) (hreads (reads_of_isNaming hnaming))
  obtain ⟨token', hat', hsame⟩ := hnamed.token? position token hat
  rw [hat', (Slot.mk.inj (hsame hnaming)).2]

end DifferUnread

end Source

/-! ## Inspections and reports -/

section Unread

variable {source source' : Source} (hpairs : source.PairsDocComments)
variable (hbetween : ∀ opening ∈ source.slots, opening.kind = .docOpen →
  ∀ closer ∈ opening.token.closer?, ∀ position ∈ opening.token.tagPositions,
    opening.position < position ∧ position < closer)
variable (hdiffer : source.DifferUnread source')

include hpairs hbetween hdiffer

/-- The comment that is found for a declaration is the same in both sources. -/
theorem Block.read_eq_of_located {anchor : Slot} (hanchor : anchor ∈ source.slots)
    {subject : Subject} {opener closer : Int}
    (hlocate : source.locate anchor.position = .ok (some (.doc subject opener closer))) :
    Block.read source' opener = Block.read source opener := by
  obtain ⟨opening, hopening, rfl, hkind, hcloser, hordered⟩ :=
    hpairs.exists_opening hanchor hlocate
  exact Block.read_eq (hdiffer.sameBetween hopening hkind hcloser)
    (Source.token?_of_mem_slots hopening) hkind hcloser (Source.bounds_of_mem_slots hopening).1
    hordered (hbetween opening hopening hkind closer hcloser)

/-- **Inspections do not depend on texts that are not read.** -/
theorem DocChecker.inspect_eq_of_differUnread {checker : DocChecker Check}
    (hsignatures : checker.signatures = .ofTokens ∨ checker.signatures.IgnoresTokens)
    (hprocessors : checker.processors = .builtIn) {anchor : Slot} (hanchor : anchor ∈ source.slots)
    (hkind : checker.kinds.contains anchor.kind = true) :
    checker.inspect source' anchor.position = checker.inspect source anchor.position := by
  have halike := hdiffer.alike
  have hat := Source.token?_of_mem_slots hanchor
  obtain ⟨subject, hsubject⟩ := exists_subject_of_mem_kinds hkind
  obtain ⟨token', hat', hslot⟩ := halike.token? anchor.position anchor.token hat
  have hsubject' : Subject.ofKind? token'.kind = some subject := by
    rw [show token'.kind = anchor.kind from hslot.kind_eq, hsubject]
  have htoken : subject ≠ .file → token' = anchor.token := by
    intro hfile
    have hsame := hdiffer.token?_eq_of_declares hat hsubject hfile
    exact Option.some.inj (hat'.symm.trans hsame)
  rcases located_or_lacks source anchor.position subject with ⟨opener, closer, hlocate⟩ | hlacks
  · have hlocate' : source'.locate anchor.position = .ok (some (.doc subject opener closer)) :=
      (halike.locate_eq anchor.position).trans hlocate
    rw [inspect_of_located hat hsubject hlocate, inspect_of_located hat' hsubject' hlocate',
      Block.read_eq_of_located hpairs hbetween hdiffer hanchor hlocate, hprocessors]
    cases hread : Block.read source opener with
    | error fault => rw [ofExcept_error_bind, ofExcept_error_bind]
    | ok block =>
      rw [ofExcept_ok_bind, ofExcept_ok_bind]
      obtain ⟨rfl, token, hreads⟩ := Block.read_eq_ok_iff.mp hread
      obtain ⟨hname, hparameters⟩ :=
        Source.signature_eq hdiffer.namesAlike hsignatures anchor.position
      have hsite : (checker.site source anchor.position subject).source.Alike source' := halike
      refine Subject.review_on hsite hreads.stands (fun hclass => ?_) hname hparameters
      have hsame := htoken (by rw [hclass]; decide)
      exact (Source.get_eq_ok_iff.mpr (hsame ▸ hat')).trans (Source.get_eq_ok_iff.mpr hat).symm
  · -- A file is called by no text of its own, and all other declarations are the same tokens.
    have hconstruct : construct subject token' = construct subject anchor.token := by
      by_cases hfile : subject = .file
      · rw [hfile]
        rfl
      · rw [htoken hfile]
    exact inspect_on_of_lacks halike hat hat' hsubject hconstruct hlacks

namespace Source

/-- **Reports do not depend on the text of surrounding code.** Two sources have equally many tokens,
which differ in their texts at most, and not even there if a token is inside a doc comment, declares
a class, an interface or a function, or is an identifier or a variable. If doc comments are paired
and list their tags between their ends, then every list of checkers with the built-in checks of tags
and with signatures from the tokens gives the same report of both, or the same fault. -/
theorem reports_ignore_surrounding_code {checkers : List (DocChecker Check)}
    (hsignatures : ∀ checker ∈ checkers,
      checker.signatures = .ofTokens ∨ checker.signatures.IgnoresTokens)
    (hprocessors : ∀ checker ∈ checkers, checker.processors = .builtIn) (fixing : Bool) :
    source'.report (checkers.map DocChecker.toChecker) fixing =
      source.report (checkers.map DocChecker.toChecker) fixing := by
  have hinspect : source'.inspect (checkers.map DocChecker.toChecker) =
      source.inspect (checkers.map DocChecker.toChecker) := by
    apply forM_eq_forM hdiffer
    rintro slot hslot slot' ⟨hrel, -⟩
    apply forM_eq_forM (List.forall₂_same.mpr fun _ _ => rfl)
    rintro checker hchecker _ rfl
    rw [hrel.kind_eq, hrel.position_eq]
    split
    · rename_i hkind
      obtain ⟨docChecker, hmem, rfl⟩ := List.mem_map.mp hchecker
      exact DocChecker.inspect_eq_of_differUnread hpairs hbetween hdiffer
        (hsignatures docChecker hmem) (hprocessors docChecker hmem) hslot hkind
    · rfl
  rw [Source.report, Source.report, hinspect]

end Source

end Unread

namespace Source

/-- A function with a white space before it and a default value. Its comment begins with a small
letter and has a wrong gap. -/
def defaultedFunction (gap default : String) : Source :=
  ⟨#[⟨.docOpen, "/**", 1, none, some 4, [2]⟩, ⟨.docString, "adds", 2, none, none, []⟩,
    ⟨.docTag, "@param", 4, none, none, []⟩,
    ⟨.docString, "int   $x The number.", 4, none, none, []⟩,
    ⟨.docClose, "*/", 5, some 0, none, []⟩, ⟨.whitespace, gap, 5, none, none, []⟩,
    ⟨.function, "function", 6, none, none, []⟩, ⟨.identifier, "add", 6, none, none, []⟩,
    ⟨.openParenthesis, "(", 6, none, some 12, []⟩, ⟨.variableName, "$x", 6, none, none, []⟩,
    ⟨.equal, "=", 6, none, none, []⟩, ⟨.number, default, 6, none, none, []⟩,
    ⟨.closeParenthesis, ")", 6, some 8, none, []⟩]⟩

/-- Another gap and another default value are reported no differently. -/
theorem defaultedFunction_reported_alike :
    ∃ report, (defaultedFunction "\n" "0").report [(DocChecker.ofConfig {}).toChecker] true =
        .ok report ∧
      report.codes = ["ShortNotCapital", "SpacingAfterParamType"] ∧
      report.edits = [⟨3, "int $x The number."⟩] ∧
      (defaultedFunction "\n\t" "$x").report [(DocChecker.ofConfig {}).toChecker] true =
        .ok report := by
  have hpairs : (defaultedFunction "\n" "0").PairsDocComments := ⟨by decide, by decide⟩
  have hdiffer : (defaultedFunction "\n" "0").DifferUnread (defaultedFunction "\n\t" "$x") := by
    simp only [DifferUnread, Slot.Alike]
    decide
  have hstandard : ∀ checker ∈ [DocChecker.ofConfig {}],
      checker.signatures = .ofTokens ∧ checker.processors = .builtIn := by
    intro checker hchecker
    obtain rfl := List.mem_singleton.mp hchecker
    exact ⟨rfl, rfl⟩
  have hreport : (defaultedFunction "\n" "0").report [(DocChecker.ofConfig {}).toChecker] true =
      .ok _ := rfl
  refine ⟨_, hreport, rfl, rfl, ?_⟩
  exact (reports_ignore_surrounding_code hpairs (by decide) hdiffer
    (fun checker hchecker => Or.inl (hstandard checker hchecker).1)
    (fun checker hchecker => (hstandard checker hchecker).2) true).trans hreport

end Source

end DocLint
