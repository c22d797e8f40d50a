import TextLog.Proofs.Handler.Mapping

/-!
# Metadata through the Pipeline

What becomes of the pairs that are bound to a logger or passed with an event.

An event goes through the pipeline as one mapping, in which the pairs of the caller
stand beside those that the pipeline adds: the message, the place of the call and the
text of an exception. The handler takes the keys that have a meaning to it out of the
mapping and shows the others over its own metadata. Six of the keys that it takes are
those that the pipeline fills or interprets itself, and a caller who keeps off them
gets back what was passed, the values of the call over the bound ones and both over
those of the handler. The seventh is the name of the source file, which a handler
accepts in place of its path and which this pipeline never adds: it can only be a
pair of the caller, and that pair alone is lost.

## Main definitions

* `pipelineKeys`: The keys that a pipeline fills or interprets.
* `Metadata.ofMessage`, `Metadata.ofSite`, `Metadata.ofException`: What it adds.

## Theorems

* `structuredEvent_eq_merge`: What the pipeline adds is laid over the pairs of the caller.
* `unreserved_structuredEvent`: What the handler leaves of an event.
* `mem_shown_of_mem_values`, `mem_shown_of_mem_bound`: Pairs of the caller are shown.
* `runOn_emitThrough`: What the handler shows and where it is written.
* `caller_pairs_shown`: All pairs of the caller are shown but a file name.
* `file_name_not_shown`: A file name that is not.
-/

namespace TextLog

open Time

/-- The keys that a pipeline fills or interprets. -/
def pipelineKeys : List String :=
  ["event", "exc_info", "exception", "pathname", "func_name", "lineno"]

/-- A handler takes the keys of a pipeline, and the name of a file besides. -/
theorem mem_reservedKeys_iff {key : String} :
    key ∈ reservedKeys ↔ key = "filename" ∨ key ∈ pipelineKeys := by
  have hperm : reservedKeys.Perm ("filename" :: pipelineKeys) := by decide
  rw [hperm.mem_iff, List.mem_cons]

namespace Metadata

/-- The message of an event, unless it is null. -/
def ofMessage : Value → Metadata
  | .null => []
  | v => [("event", v)]

/-- The place of a call. -/
def ofSite (site : CallSite) : Metadata :=
  [("pathname", site.file), ("func_name", site.function), ("lineno", site.line)]

/-- The text of an exception, if there is one. -/
def ofException : Option String → Metadata
  | some text => [("exception", .text text)]
  | none => []

/-- What a pipeline adds to an event. -/
def added (message : Value) (site : CallSite) (exception : Option String) : Metadata :=
  ofMessage message ++ ofSite site ++ ofException exception

/-- The keys that a pipeline can add, in order. -/
def addedKeys : List String :=
  ["event", "pathname", "func_name", "lineno", "exception"]

theorem keys_added_sublist (message : Value) (site : CallSite) (exception : Option String) :
    ((added message site exception).map Prod.fst).Sublist addedKeys := by
  have hmessage : ((ofMessage message).map Prod.fst).Sublist ["event"] := by
    cases message with
    | null => exact List.nil_sublist _
    | _ => exact List.Sublist.refl _
  have hexception : ((ofException exception).map Prod.fst).Sublist ["exception"] := by
    cases exception with
    | none => exact List.nil_sublist _
    | some text => exact List.Sublist.refl _
  rw [added, List.map_append, List.map_append]
  exact (hmessage.append (List.Sublist.refl _)).append hexception

theorem distinct_added (message : Value) (site : CallSite) (exception : Option String) :
    (added message site exception).Distinct :=
  (keys_added_sublist message site exception).nodup (by decide)

theorem addedKeys_subset : addedKeys ⊆ pipelineKeys := by
  decide

theorem mem_addedKeys {message : Value} {site : CallSite} {exception : Option String}
    {p : String × Value} (hp : p ∈ added message site exception) : p.1 ∈ addedKeys :=
  (keys_added_sublist message site exception).subset (List.mem_map_of_mem hp)

theorem addMessage_eq_merge (m : Metadata) (message : Value) :
    addMessage m message = merge m (ofMessage message) := by
  cases message <;> rfl

theorem addException_eq_merge {m : Metadata} (hm : get? m "exc_info" = none)
    (exception : Option String) : addException m exception = merge m (ofException exception) := by
  cases exception with
  | none => exact erase_of_get?_eq_none hm
  | some text =>
      rw [addException, erase_of_get?_eq_none hm]
      rfl

/-- Where the pairs of the caller keep off the keys of the pipeline, what it adds is
    laid over them. -/
theorem structuredEvent_eq_merge {bound values : Metadata}
    (hfree : ∀ key ∈ pipelineKeys, get? (merge bound values) key = none) (message : Value)
    (site : CallSite) (exception : Option String) :
    structuredEvent bound values [] message site exception =
      merge (merge bound values) (added message site exception) := by
  have hinside : (ofMessage message ++ ofSite site).Sublist (added message site exception) :=
    List.sublist_append_left _ _
  have hplace : get? (merge (merge bound values) (ofMessage message ++ ofSite site)) "exc_info" =
      none := by
    rw [get?_merge _ (distinct_of_sublist hinside (distinct_added message site exception)),
      hfree _ (by decide), Option.or_none, get?_eq_none_iff]
    exact fun p hp hkey => absurd (hkey ▸ mem_addedKeys (hinside.subset hp)) (by decide)
  calc structuredEvent bound values [] message site exception
      = addException (addCallSite (addMessage (merge bound values) message) site) exception := rfl
    _ = addException (merge (merge bound values) (ofMessage message ++ ofSite site)) exception := by
        rw [addMessage_eq_merge, addCallSite, ← merge_append]
        rfl
    _ = merge (merge bound values) (added message site exception) := by
        rw [addException_eq_merge hplace, merge_append]
        rfl

/-- A handler leaves the pairs of the caller but for a file name. -/
theorem unreserved_structuredEvent {bound values : Metadata} (hbound : bound.Distinct)
    (hfree : ∀ key ∈ pipelineKeys, get? (merge bound values) key = none) (message : Value)
    (site : CallSite) (exception : Option String) :
    (structuredEvent bound values [] message site exception).unreserved =
      erase (merge bound values) "filename" := by
  have hown : ∀ p ∈ merge bound values,
      decide (p.1 ∉ reservedKeys) = decide (p.1 ≠ "filename") := by
    intro p hp
    have hkey : p.1 ∉ pipelineKeys := fun hmem =>
      (get?_eq_none_iff _ p.1).mp (hfree p.1 hmem) p hp rfl
    exact decide_eq_decide.mpr (not_congr (mem_reservedKeys_iff.trans (or_iff_left hkey)))
  have hadded : (added message site exception).filter (fun p => p.1 ∉ reservedKeys) = [] := by
    refine List.filter_eq_nil_iff.mpr fun p hp => ?_
    have hkey := mem_reservedKeys_iff.mpr (Or.inr (addedKeys_subset (mem_addedKeys hp)))
    simp only [hkey, not_true_eq_false, decide_false, Bool.false_eq_true, not_false_eq_true]
  have happend : structuredEvent bound values [] message site exception =
      merge bound values ++ added message site exception :=
    (structuredEvent_eq_merge hfree message site exception).trans
      (merge_eq_append (distinct_added message site exception) fun p hp =>
        hfree p.1 (addedKeys_subset (mem_addedKeys hp)))
  rw [happend, unreserved, List.filter_append, hadded, List.append_nil, List.filter_congr hown,
    erase_eq_filter (distinct_merge hbound values)]

/-- The pairs of the caller over those of a handler, but for a file name: those of the
    call win over the bound ones. -/
theorem get?_shown (base : Metadata) {bound values : Metadata} (hbound : bound.Distinct)
    (hvalues : values.Distinct) (key : String) :
    get? (merge base (erase (merge bound values) "filename")) key =
      if key = "filename" then get? base key
      else (get? values key).or ((get? bound key).or (get? base key)) := by
  have hdistinct := distinct_merge hbound values
  rw [get?_merge base (distinct_erase hdistinct "filename")]
  by_cases hkey : key = "filename"
  · rw [if_pos hkey, hkey, get?_erase_self hdistinct, Option.none_or]
  · rw [if_neg hkey, get?_erase_of_ne _ (Ne.symm hkey), get?_merge bound hvalues, Option.or_assoc]

/-- A pair of the call is shown. -/
theorem mem_shown_of_mem_values (base : Metadata) {bound values : Metadata}
    (hbound : bound.Distinct) (hvalues : values.Distinct) {pair : String × Value}
    (hpair : pair ∈ values) (hname : pair.1 ≠ "filename") :
    pair ∈ merge base (erase (merge bound values) "filename") := by
  refine mem_of_get?_eq_some ?_
  rw [get?_shown base hbound hvalues, if_neg hname, get?_of_mem hvalues hpair, Option.some_or]

/-- A bound pair is shown if the call does not replace it. -/
theorem mem_shown_of_mem_bound (base : Metadata) {bound values : Metadata}
    (hbound : bound.Distinct) (hvalues : values.Distinct) {pair : String × Value}
    (hpair : pair ∈ bound) (hname : pair.1 ≠ "filename") (hnew : get? values pair.1 = none) :
    pair ∈ merge base (erase (merge bound values) "filename") := by
  refine mem_of_get?_eq_some ?_
  rw [get?_shown base hbound hvalues, if_neg hname, hnew, get?_of_mem hbound hpair,
    Option.none_or, Option.some_or]

end Metadata

namespace Session

/-- An event goes through the handler of a pipeline. Below the level nothing happens,
    and otherwise it is shown with its own pairs over those of the handler and goes to
    the target, the text of an exception behind it. -/
theorem runOn_emitThrough {s : Session} (hs : s.Fresh) {p : Pipeline} {h : Handler}
    (hh : s.handler? p.handler = some h) (method : String) {dict : Metadata}
    (hdict : dict.Distinct) :
    (Action.emitThrough p method dict).runOn s =
      if h.isLogging (methodSeverity method) then
        (do
          let line ← Action.formatEvent h.logger (eventOf (methodSeverity method) dict)
            (Metadata.pretty (Metadata.merge h.metadata dict.unreserved)) h.label none
          Action.write p.target (line ++ exceptionTail dict)).runOn s
      else (.ok (), s) := by
  rw [Action.emitThrough, Action.runOn_bind_ok (Action.runOn_handler p.handler h s hh)]
  by_cases hlog : h.isLogging (methodSeverity method) = true
  · have hline := runOn_renderHandled_eq hh (eventOf (methodSeverity method) dict) dict.unreserved
    rw [Action.runOn_renderHandled p.handler h _ _ s hh,
      Handler.metadataText_of_fresh (hs h (mem_handlers hh))] at hline
    rw [if_pos hlog, if_pos hlog, Action.runOn_bind, Action.runOn_bind, hline, runOn_process hh,
      if_pos hlog, ← Metadata.unreserved_eq_without hdict]
    cases h.lineIn s (eventOf (methodSeverity method) dict) dict.unreserved <;> rfl
  · rw [if_neg hlog, if_neg hlog]
    rfl

/-- No pair of the caller is lost but a file name. Whatever a program has done, an event
    that is let through and keeps off the keys of the pipeline is shown, without ambient
    values, with the pairs of the call over the bound ones and both over those of the
    handler: every pair that is passed is among the pairs that are shown, and every bound
    one that the call does not replace, unless its key is that of a file name; and where
    no pair has this key, the metadata that are shown are the three laid over each
    other. -/
theorem caller_pairs_shown (s : Session) (hs : s.Reached) (hambient : s.ambient = [])
    (l : StructuredLogger) (b : BoundLogger) (hb : l.boundIn s = some b) (p : Pipeline)
    (hp : b.pipelineIn s = some p) (how : EmitBy) (message : Value) (args : List Value)
    (values : Metadata) (hvalues : values.Distinct)
    (hfree : ∀ pair ∈ b.bound ++ values, pair.1 ∉ pipelineKeys) (method : String) (text : Value)
    (haccept : how.accept message args values = .ok (some (method, text))) (site : CallSite)
    (exception : Option String) :
    ∃ h shown dict, s.handler? p.handler = some h ∧
      shown = Metadata.merge h.metadata
        (Metadata.erase (Metadata.merge b.bound values) "filename") ∧
      dict = structuredEvent b.bound values [] text site exception ∧
      (h.isLogging (methodSeverity method) = true →
        (Action.emitStructured l how message args values site exception).runOn s =
          (do
            let line ← Action.formatEvent h.logger (eventOf (methodSeverity method) dict)
              (Metadata.pretty shown) h.label none
            Action.write p.target (line ++ exceptionTail dict)).runOn s) ∧
      (h.isLogging (methodSeverity method) = false →
        (Action.emitStructured l how message args values site exception).runOn s = (.ok (), s)) ∧
      (∀ key, Metadata.get? shown key =
        if key = "filename" then Metadata.get? h.metadata key
        else (Metadata.get? values key).or
          ((Metadata.get? b.bound key).or (Metadata.get? h.metadata key))) ∧
      (∀ pair ∈ values, pair.1 ≠ "filename" → pair ∈ shown) ∧
      (∀ pair ∈ b.bound, pair.1 ≠ "filename" → Metadata.get? values pair.1 = none →
        pair ∈ shown) ∧
      ((∀ pair ∈ b.bound ++ values, pair.1 ≠ "filename") →
        shown = Metadata.merge h.metadata (Metadata.merge b.bound values)) := by
  have hwired := wired_of_reached hs
  have hbound := (wiredIn_of_boundIn hwired hb).distinct
  rcases exists_handler_of_has (has_of_pipelineIn hwired (wiredIn_of_boundIn hwired hb) hp) with
    ⟨h, hh⟩
  have hkeys : ∀ key ∈ pipelineKeys,
      Metadata.get? (Metadata.merge b.bound values) key = none := fun key hkey =>
    Metadata.get?_merge_eq_none hvalues fun pair hpair hsame => hfree pair hpair (hsame ▸ hkey)
  have hdict : (structuredEvent b.bound values [] text site exception).Distinct := by
    rw [Metadata.structuredEvent_eq_merge hkeys]
    exact Metadata.distinct_merge (Metadata.distinct_merge hbound values) _
  -- Without ambient values the mapping of the event has the pairs of the caller alone.
  have hrun : (Action.emitStructured l how message args values site exception).runOn s =
      (Action.emitThrough p method
        (structuredEvent b.bound values [] text site exception)).runOn s := by
    rw [Action.runOn_emitStructured hb haccept hp, hambient]
  rw [runOn_emitThrough hwired.fresh hh method hdict,
    Metadata.unreserved_structuredEvent hbound hkeys] at hrun
  refine ⟨h, _, _, hh, rfl, rfl, ?_, ?_, Metadata.get?_shown h.metadata hbound hvalues,
    fun _ => Metadata.mem_shown_of_mem_values h.metadata hbound hvalues,
    fun _ => Metadata.mem_shown_of_mem_bound h.metadata hbound hvalues, ?_⟩
  · intro hlog
    rw [hrun, if_pos hlog]
  · intro hlog
    rw [hrun, if_neg (by rw [hlog]; exact Bool.false_ne_true)]
  -- Where no pair has the key of a file name, there is nothing to lose.
  · intro hname
    rw [Metadata.erase_of_get?_eq_none (Metadata.get?_merge_eq_none hvalues hname)]

/-- A user is bound and then passed anew, and the handler has a service of its own. -/
theorem caller_pairs_shown_bound :
    ∃ (s : Session) (b : BoundLogger) (p : Pipeline),
      s = (start ⟨⟨2024, 1, 1, 0, 0, 0, 0⟩, some 0⟩ false).afterSteps
        [.operation .openMemory, .operation (.makeLogger (.text "error") (.memory ⟨0⟩)
          { format := .text "(%msg) (%metadata)", timeZone := .name "UTC" }),
          .configure (.text "api") (some ⟨0⟩) (.text "info"),
          .operation (.editHandler ⟨0⟩ (.item "service" (.text "billing"))),
          .derive .requested (.bind [("user", .int 1)])] ∧
      s.Reached ∧ s.ambient = [] ∧ StructuredLogger.boundIn (.derived ⟨0⟩) s = some b ∧
      b.bound = [("user", .int 1)] ∧ b.pipelineIn s = some p ∧ p.target = ⟨0⟩ ∧
      ∃ h shown dict, s.handler? p.handler = some h ∧
        dict = structuredEvent b.bound [("size", .int 3), ("user", .int 2)] [] (.text "upload")
          ⟨.text "save", .int 7, .text "/srv/app.py"⟩ none ∧
        shown = [("service", .text "billing"), ("user", .int 2), ("size", .int 3)] ∧
        (Action.emitStructured (.derived ⟨0⟩) (.method "info") (.text "upload") []
            [("size", .int 3), ("user", .int 2)] ⟨.text "save", .int 7, .text "/srv/app.py"⟩
            none).runOn s =
          (do
            let line ← Action.formatEvent h.logger (eventOf .info dict) (Metadata.pretty shown)
              h.label none
            Action.write p.target (line ++ exceptionTail dict)).runOn s := by
  rcases show ∃ (s : Session) (b : BoundLogger) (p : Pipeline) (h : Handler),
      s = (start ⟨⟨2024, 1, 1, 0, 0, 0, 0⟩, some 0⟩ false).afterSteps
        [.operation .openMemory, .operation (.makeLogger (.text "error") (.memory ⟨0⟩)
          { format := .text "(%msg) (%metadata)", timeZone := .name "UTC" }),
          .configure (.text "api") (some ⟨0⟩) (.text "info"),
          .operation (.editHandler ⟨0⟩ (.item "service" (.text "billing"))),
          .derive .requested (.bind [("user", .int 1)])] ∧
      s.Reached ∧ s.ambient = [] ∧ StructuredLogger.boundIn (.derived ⟨0⟩) s = some b ∧
      b.bound = [("user", .int 1)] ∧ b.pipelineIn s = some p ∧ p.target = ⟨0⟩ ∧
      s.handler? p.handler = some h ∧ h.metadata = [("service", .text "billing")] ∧
      h.level = .info from
    ⟨_, _, _, _, rfl, ⟨_, _, _, rfl⟩, rfl, rfl, rfl, rfl, rfl, rfl, rfl, rfl⟩ with
    ⟨s, b, p, h, hs, hreached, hambient, hb, hbound, hp, htarget, hh, hmetadata, hlevel⟩
  rcases caller_pairs_shown s hreached hambient (.derived ⟨0⟩) b hb p hp (.method "info")
    (.text "upload") [] [("size", .int 3), ("user", .int 2)] (by decide)
    (by rw [hbound]; decide) "info" (.text "upload") rfl
    ⟨.text "save", .int 7, .text "/srv/app.py"⟩ none with
    ⟨found, shown, dict, hfound, hshown, hdict, hrun, _⟩
  rw [hh, Option.some.injEq] at hfound
  subst hfound
  refine ⟨s, b, p, hs, hreached, hambient, hb, hbound, hp, htarget, h, shown, dict, hh, hdict, ?_,
    hrun ?_⟩
  · rw [hshown, hmetadata, hbound]
    rfl
  · rw [Handler.isLogging, hlevel]
    decide

/-- A file name that is passed is not among the pairs that are shown, though it is none
    of the keys of the pipeline. -/
theorem file_name_not_shown :
    ∃ (s : Session) (h : Handler) (values : Metadata),
      s = (start ⟨⟨2024, 1, 1, 0, 0, 0, 0⟩, some 0⟩ false).afterSteps
        [.operation .openMemory, .operation (.makeLogger (.text "entry") (.memory ⟨0⟩)
          { format := .text "(%msg) (%metadata)", timeZone := .name "UTC" }),
          .configure (.text "heliumlog") (some ⟨0⟩) (.text "info")] ∧
      s.ambient = [] ∧ s.pipeline = some ⟨⟨0⟩, ⟨0⟩⟩ ∧ s.handler? ⟨0⟩ = some h ∧
      h.isLogging .info = true ∧
      values = [("filename", .text "report.csv"), ("size", .int 3)] ∧
      (∀ pair ∈ values, pair.1 ∉ pipelineKeys) ∧
      Metadata.pretty (Metadata.merge h.metadata (Metadata.merge [] values)) =
        some "filename=report.csv size=3" ∧
      (s.afterStep (.emit .requested (.method "info") (.text "upload") [] values
        ⟨.text "save", .int 7, .text "/srv/app.py"⟩ none)).lines ⟨0⟩ = ["upload size=3"] := by
  refine ⟨_, _, _, rfl, rfl, rfl, rfl, ?_, rfl, ?_, ?_, ?_⟩
  · decide
  · decide
  · rfl
  · decide +kernel

end Session

end TextLog
