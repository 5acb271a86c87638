import DocLint.Proofs.TagOrder

/-!
# Exact reports about tags in the order of the table

The rules about the table of tags look at the tags of a comment one by one and then walk through the
table. The walk may end early, and it may blame tags for their place. Neither happens if the tags
are in the order of the table: at each entry that is present, the tags that have not been passed
begin with the run of that entry. So the walk is the table, entry by entry.

What the rules find is then a plain list. First come the flaws of the tags in the order of the
comment, and after them what each entry of the table has to say. Tags that are not in the table may
stand anywhere and are of no account.
-/

namespace DocLint

open Check

/-! ## Reporting findings -/

/-- Reports a finding. -/
def Finding.report (site : Site) (finding : Finding) : Check Unit :=
  site.blame finding.position finding.violation finding.edit?

namespace Finding

variable {site : Site} {finding : Finding}

end Finding

/-! ## The tags one by one -/

namespace Tag

variable {specs : List TagSpec} {construct : String} {finding : Finding}

end Tag

namespace Rule

variable {specs : List TagSpec}

end Rule

/-! ## The table entry by entry -/

namespace Block

variable {block : Block} {specs : List TagSpec} {rest : List Tag} {place : Nat}

end Block

/-- What is reported for an entry: the diagnostics of the check of its name on all its tags or, if
it has none and is required, one that words it as missing. -/
def TagSpec.Yields (site : Site) (block : Block) (construct : String)
    (processors : Processors Check) (spec : TagSpec) (output : List Diagnostic) : Prop :=
  if block.tagsNamed spec.name = [] then
    List.Forall₂ (Finding.WordedAs site)
      (if spec.required then [⟨block.closer, .missingTag spec.name construct, none⟩] else []) output
  else
    output =
      (Rule.processTags site block processors spec.name (block.tagsNamed spec.name)).diagnostics

namespace TagSpec

variable {site : Site} {block : Block} {construct : String} {processors : Processors Check}
variable {spec : TagSpec}

end TagSpec

namespace Rule

variable {site : Site} {block : Block} {specs : List TagSpec}

end Rule

end DocLint
