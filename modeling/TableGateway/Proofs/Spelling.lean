/-
Spellings: whether it matters when the names of headers are put in lowercase.

Merging writes names in lowercase and lets the greatest spelling of a name count, with
whatever value it has; only then are headers without a value left out.  Options that were
not merged have their headers without a value left out first.  So where the greatest
spelling of a name has no value and another one has, a transport that is called with the
options themselves sends a header that it does not send for the same options merged
(`unmerged_ne_silenced`).  In all other cases, and where the lost value is the one that
the options call for anyway, both are the same (`unmerged_headers_iff`).
-/
import TableGateway.Proofs.HeaderTable
import TableGateway.Proofs.Merging
import TableGateway.Proofs.Precedence

namespace TableGateway

open Session

namespace Options

/-- The greatest spelling of a name has no value. -/
def Silenced (o : Options) (k : String) : Prop :=
  ∃ name, o.headers.get? name = some "" ∧ name.toLower = k ∧
    ∀ other w, o.headers.get? other = some w → other.toLower = k → other ≤ name

theorem silenced_iff {o : Options} {k : String} : o.Silenced k ↔ o.mention? k = some "" :=
  mention?_eq_some_iff.symm

/-- Of the layers at most one says anything, and that is this one. -/
def OnlyLayer (o : Options) (layers : List Options) : Prop :=
  ∃ earlier later, layers = earlier ++ o :: later ∧ ∀ l ∈ earlier ++ later, l = {}

theorem foldl_merge_of_onlyLayer {o : Options} {layers : List Options} (h : o.OnlyLayer layers) :
    layers.foldl merge {} = mergeAll [some o] := by
  obtain ⟨earlier, later, rfl, hempty⟩ := h
  have hnames : ((earlier ++ o :: later).foldl merge {}).Lowercase := by
    cases earlier with
    | nil => exact lowercase_foldl o later
    | cons first rest => exact lowercase_foldl first (rest ++ o :: later)
  refine eq_of_overlays hnames (lowercase_mergeAll _) ?_
  intro α field hfield
  -- the layers before it and after it leave the field alone
  have hunset : ∀ part : List Options, (∀ l ∈ part, l ∈ earlier ++ later) →
      lastSet field part = none := by
    intro part hpart
    refine lastSet_eq_none_iff.mpr fun l hl => ?_
    rw [hempty l (hpart l hl), hfield.unset]
  rw [hfield.foldl, hfield.mergeAll, lastSet_append, lastSet_cons,
    hunset earlier fun l hl => List.mem_append_left _ hl,
    hunset later fun l hl => List.mem_append_right _ hl, Option.or_none, Option.none_or]
  exact (lastSet_cons field o []).symm

end Options

namespace Headers

variable {o : Options} {k : String}

theorem lookup_extra_of_mention {v : String} (h : o.mention? k = some v) (hv : v ≠ "") :
    (extra o).reverse.lookup k = some v := by
  obtain ⟨name, hname, hk, hgreatest⟩ := Options.mention?_eq_some_iff.mp h
  refine lookup_extra_eq_some_iff.mpr ⟨name, ⟨hname, hv⟩, hk, ?_⟩
  rintro other w ⟨hother, -⟩
  exact hgreatest other w hother

/-- A header that is added is mentioned, perhaps with another value. -/
theorem exists_mention_of_added {v : String} (h : Added o k v) : ∃ w, o.mention? k = some w := by
  obtain ⟨name, ⟨hname, -⟩, hk, -⟩ := h
  refine Option.ne_none_iff_exists'.mp fun hnone => ?_
  exact Options.mention?_eq_none_iff.mp hnone name v hname hk

/-- Of merged options those headers are added that are mentioned with a value. -/
theorem lookup_extra_lowercased (o : Options) (k : String) :
    (extra o.lowercased).reverse.lookup k = nonEmpty (o.mention? k) := by
  have hlower := Options.lowercase_lowercased o
  ext v
  rw [lookup_extra_eq_some_iff, nonEmpty_eq_some_iff, ← Options.get?_lowercased]
  constructor
  · rintro ⟨name, ⟨hname, hv⟩, rfl, -⟩
    rw [hlower name v hname]
    exact ⟨hname, hv⟩
  · rintro ⟨hk, hv⟩
    rw [← hlower k v hk]
    exact added_of_lowercase hlower hk hv

/-- What the options call for does not depend on their extra headers. -/
theorem computed_lowercased (o : Options) : computed o.lowercased = computed o := rfl

theorem get?_lowercased (o : Options) (k : String) :
    (ofOptions o.lowercased).get? k
      = (nonEmpty (o.mention? k)).or ((computed o).reverse.lookup k) := by
  rw [get?_ofOptions, lookup_extra_lowercased, computed_lowercased]

/-- A header is the same after merging, unless it was silenced by merging and its value
is not the one that is called for. -/
theorem get?_lowercased_eq (h : ∀ v, o.Silenced k → Added o k v → CalledFor o k v) :
    (ofOptions o.lowercased).get? k = (ofOptions o).get? k := by
  rw [get?_lowercased, get?_ofOptions]
  -- by what the options add themselves, and by what is left of it when they are merged
  cases hextra : (extra o).reverse.lookup k with
  | none =>
      cases hmention : o.mention? k with
      | none => rfl
      | some w =>
          by_cases hw : w = ""
          · rw [hw]
            rfl
          · cases hextra.symm.trans (lookup_extra_of_mention hmention hw)
  | some v =>
      have hadded := lookup_extra_eq_some_iff.mp hextra
      obtain ⟨w, hmention⟩ := exists_mention_of_added hadded
      by_cases hw : w = ""
      · have hcalled := h v (Options.silenced_iff.mpr (hw ▸ hmention)) hadded
        rw [hmention, hw, lookup_computed_eq_some_iff.mpr hcalled]
        rfl
      · cases hextra.symm.trans (lookup_extra_of_mention hmention hw)
        rw [hmention, nonEmpty_eq_some_iff.mpr ⟨rfl, hw⟩]

theorem ofOptions_lowercased_iff (o : Options) :
    ofOptions o.lowercased = ofOptions o ↔
      ∀ k v, o.Silenced k → Added o k v → CalledFor o k v := by
  constructor
  · intro heq k v hsilenced hadded
    have hget := get?_ofOptions_eq_some_iff.mpr (Or.inl hadded)
    rw [← heq, get?_lowercased, Options.silenced_iff.mp hsilenced] at hget
    exact lookup_computed_eq_some_iff.mp hget
  · intro h
    exact SortedMap.ext_get? fun k => get?_lowercased_eq (h k)

/-- Of any options: merged by themselves they come to the same headers exactly when no
name is silenced, one apart whose value in another spelling is the one that the options
call for anyway.  And the headers of these options merged by themselves are those of
every request that a transport receives, in any run, for which they are the only layer
that says anything. -/
theorem unmerged_headers_iff (o : Options) :
    (ofOptions (.mergeAll [some o]) = ofOptions o ↔
      ∀ k v, o.Silenced k → Added o k v → CalledFor o k v) ∧
    ∀ (σ τ : Type) (t : Transport σ τ) (surroundings : σ) (defaults : Options)
        (ops : List Operation),
      let c := (start t surroundings defaults).account ops
      ∀ origin content layers,
        c.request? (traffic t surroundings defaults ops) origin = some content →
          c.layers? origin = some layers → o.OnlyLayer (defaults :: layers) →
            ofOptions content.2 = ofOptions (.mergeAll [some o]) := by
  refine ⟨?_, ?_⟩
  · show ofOptions (Options.merge {} o) = ofOptions o ↔ _
    rw [Options.empty_merge, ofOptions_lowercased_iff]
  · intro σ τ t surroundings defaults ops c origin content layers hrequest hlayers honly
    obtain ⟨owners, polls, h⟩ := exists_agrees_account t surroundings defaults ops
    have hsent := h.sent_of_request hrequest
    rw [defaults_observed] at hsent
    obtain ⟨layers', hlayers', hcontent⟩ := Chronicle.options_of_sent hsent
    cases hlayers'.symm.trans hlayers
    rw [hcontent, Options.foldl_merge_of_onlyLayer honly]

/-- Options with a header that is not spelled in lowercase. -/
def spelledTrace : Options := { headers := SortedMap.empty.insert "X-Trace" "on" }

/-- A fetch with these options and no others. -/
def spelledFetch : List Operation :=
  [.openQuery "users" "users", .fetch "users" { options := some spelledTrace } none]

theorem unmerged_headers_spelledFetch :
    ∃ content, ((start Script.transport {} {}).account spelledFetch).request?
        (traffic Script.transport {} {} spelledFetch) (.fetch 0) = some content ∧
      ofOptions content.2 = ofOptions spelledTrace := by
  obtain ⟨hiff, hruns⟩ := unmerged_headers_iff spelledTrace
  have hsame := hiff.mpr fun k v hsilenced _ => by
    obtain ⟨name, hname, -⟩ := hsilenced
    have hmem := List.mem_singleton.mp (SortedMap.get?_eq_some_iff.mp hname)
    exact absurd (Prod.mk.inj hmem).2 (by decide)
  have honly : spelledTrace.OnlyLayer [{}, spelledTrace] :=
    ⟨[{}], [], rfl, fun l hl => List.mem_singleton.mp hl⟩
  have hsent := hruns _ _ Script.transport {} {} spelledFetch (.fetch 0) _ _ rfl rfl honly
  exact ⟨_, rfl, hsent.trans hsame⟩

/-- Options with a header under two spellings, the lowercase one without a value. -/
def silencedTrace : Options :=
  { headers := (SortedMap.empty.insert "X-Trace" "on").insert "x-trace" "" }

/-- The options themselves have the header, merged they do not. -/
theorem unmerged_ne_silenced :
    (ofOptions silencedTrace).get? "x-trace" = some "on" ∧
      (ofOptions (.mergeAll [some silencedTrace])).get? "x-trace" = none ∧
      ofOptions (.mergeAll [some silencedTrace]) ≠ ofOptions silencedTrace := by
  have hon : (ofOptions silencedTrace).get? "x-trace" = some "on" := by decide +kernel
  have hnone : (ofOptions (.mergeAll [some silencedTrace])).get? "x-trace" = none := by
    decide +kernel
  refine ⟨hon, hnone, fun heq => ?_⟩
  rw [heq, hon] at hnone
  cases hnone

end Headers

end TableGateway
