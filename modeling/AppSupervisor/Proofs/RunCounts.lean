import AppSupervisor.Proofs.CountsAndPorts
import AppSupervisor.Proofs.KeyValues

/-!
The count of a run.

Whichever options a run has, its count is at least one and not too long to be read. Each option that
is set keeps that, so all of them do. So the count that a run writes into its request is read back.
-/

namespace AppSupervisor

open AppSupervisor.Command AppSupervisor.CommandLine AppSupervisor.Numeral AppSupervisor.Text

namespace CommandLine

structure IsCount (n : Int) : Prop where
  positive : 1 ≤ n
  writable : IsWritable n

theorem readCount_isCount {text : String} {count : Int} (h : readCount text = .ok count) :
    IsCount count := by
  unfold readCount at h
  cases hread : parseInteger text with
  | error fault =>
      rw [hread] at h
      contradiction
  | ok n =>
      simp only [hread] at h
      split_ifs at h with hlow
      obtain rfl : n = count := Except.ok.inj h
      exact ⟨by omega, (parseInteger_eq_ok_iff.mp hread).isWritable⟩

theorem lookup_count_requestOf (options : RunOptions) (properties given : List (String × String)) :
    (requestOf options properties given).deploymentProperties.lookup countProperty =
      some (toString options.count) := by
  have hgroup : countProperty ≠ groupProperty := by decide
  dsimp only [requestOf]
  split_ifs <;> simp [lookup_put, hgroup]

theorem instanceCount_requestOf {options : RunOptions} (h : IsCount options.count)
    (properties given : List (String × String)) :
    instanceCount (requestOf options properties given).deploymentProperties =
      .ok options.count.toNat := by
  rw [instanceCount_written h.writable ⟨"", "", rfl, rfl, by simp⟩
    (lookup_count_requestOf options properties given), if_pos h.positive]

end CommandLine

namespace Act

variable {σ : Type}

/-- What every step of a fold keeps, the fold keeps. -/
theorem foldlM_keeps {α β : Type} {P : α → Prop} {step : α → β → Act σ α}
    (hstep : ∀ a b world next after, P a → (step a b).perform world = (.ok next, after) → P next)
    {items : List β} {a last : α} {world after : World σ} (ha : P a)
    (h : (items.foldlM step a).perform world = (.ok last, after)) : P last := by
  induction items generalizing a world with
  | nil =>
      cases h
      exact ha
  | cons b rest ih =>
      rw [List.foldlM_cons] at h
      obtain ⟨next, between, hnext, hrest⟩ := perform_bind_eq_ok h
      exact ih (hstep a b world next between ha hnext) hrest

theorem valueAt_eq_ok {α : Type} {place : String} {value : Except ValueCause α} {a : α}
    {world after : World σ} (h : (valueAt place value).perform world = (.ok a, after)) :
    value = .ok a := by
  cases value with
  | ok b =>
      cases h
      rfl
  | error cause => cases h

variable [Machine σ]

theorem setOption_isCount {options next : RunOptions} {values : List String} {key : RunOption}
    {world after : World σ} (hcount : IsCount options.count)
    (h : (setOption options values key).perform world = (.ok next, after)) :
    IsCount next.count := by
  cases key with
  | count =>
      obtain ⟨count, between, hread, hnext⟩ := perform_bind_eq_ok h
      cases hnext
      exact readCount_isCount (valueAt_eq_ok hread)
  | config =>
      obtain ⟨path, between, -, hnext⟩ := perform_bind_eq_ok h
      cases hnext
      exact hcount
  | waitTimeout =>
      obtain ⟨timeout, between, -, hnext⟩ := perform_bind_eq_ok h
      cases hnext
      exact hcount
  | _ =>
      cases h
      exact hcount

/-- The count that a command line asks for is one that an option may give. -/
theorem runOptions_isCount {line : Parsed RunOption} {options : RunOptions}
    {world after : World σ} (h : (runOptions line).perform world = (.ok options, after)) :
    IsCount options.count := by
  obtain ⟨given, between, hgiven, hrest⟩ := perform_bind_eq_ok h
  have hcount : IsCount given.count :=
    foldlM_keeps (P := fun options => IsCount options.count)
      (fun _ _ _ _ _ hcount hstep => setOption_isCount hcount hstep) ⟨by decide, by decide⟩ hgiven
  cases harguments : line.arguments with
  | nil =>
      rw [harguments] at hrest
      cases hrest
  | cons artifact extra =>
      rw [harguments] at hrest
      obtain ⟨path, found, -, hlast⟩ := perform_bind_eq_ok hrest
      cases extra with
      | nil =>
          cases hlast
          exact hcount
      | cons _ _ => cases hlast

theorem runWith_counts (context : RunContext σ) {options : RunOptions} (h : IsCount options.count)
    (world : World σ) :
    Records (runWith context.recorded options) (runWith context options) world fun _ turns _ =>
      ∀ request outcome moment, .deploy request outcome moment ∈ turns →
        instanceCount request.deploymentProperties = .ok options.count.toNat := by
  refine (runWith_deploys context options world).mono fun _ turns _ hturns => ?_
  intro request outcome moment hmem
  cases hmaps : options.maps with
  | error cause =>
      rw [hmaps] at hturns
      simp [hturns.2] at hmem
  | ok maps =>
      rw [hmaps] at hturns
      rcases hturns with ⟨hnone, -⟩ | ⟨first, start, rest, rfl, hrest⟩
      · simp [hnone] at hmem
      · rcases List.mem_cons.mp hmem with hfirst | hmem
        · cases hfirst
          exact instanceCount_requestOf h maps.1 maps.2
        · exact absurd (hrest _ hmem) (by simp [Turn.isDeploy])

end Act

/-- The decimal text of a number that is not too long, with blanks around it or without, is read as
the number by both readers, and refused by each for a number out of its range. Any other text has
exactly the outcome that it is said to have: only a count may be blank, and all that goes wrong is a
fault in the request. No number that a text names is too long for a message. A count that the
options of a run give is at least one and not too long, and in the request that the run deploys it
is read back. -/
theorem counts_and_ports_decode {σ : Type} [Machine σ] (context : RunContext σ)
    (world : World σ) :
    (∀ n s, IsWritable n → IsPadded s (toString n) →
      (∀ properties, properties.lookup countProperty = some s → instanceCount properties =
        if 1 ≤ n then .ok n.toNat else .error (.badRequest (.countTooSmall n))) ∧
      ∀ source, parsePort s source =
        if 1 ≤ n ∧ n ≤ 65535 then .ok n else .error (.badRequest (.portOutOfRange source n))) ∧
    (∀ properties outcome, instanceCount properties = outcome ↔
      CountOutcome ((properties.lookup countProperty).getD "") outcome) ∧
    (∀ value source outcome, parsePort value source = outcome ↔
      PortOutcome value source outcome) ∧
    (∀ value n, Names value n → IsWritable n ∧ ¬isBlankText value) ∧
    ∀ line options after, (Act.runOptions line).perform world = (.ok options, after) →
      IsCount options.count ∧
      Act.Records (Act.runWith context.recorded options) (Act.runWith context options) after
        fun _ turns _ => ∀ request outcome moment, .deploy request outcome moment ∈ turns →
          instanceCount request.deploymentProperties = .ok options.count.toNat := by
  refine ⟨fun n s hn hs => ⟨fun properties => ?_, ?_⟩, fun properties outcome => ?_,
    fun value source outcome => parsePort_eq_iff, fun value n hn => ?_, ?_⟩
  · exact instanceCount_written hn hs
  · exact parsePort_written hn hs
  · exact instanceCount_eq_iff rfl
  · exact ⟨hn.isWritable, hn.not_blank⟩
  · intro line options after hoptions
    have hcount := Act.runOptions_isCount hoptions
    exact ⟨hcount, Act.runWith_counts context hcount after⟩

open Rehearsal

def Rehearsal.threeLine : Parsed RunOption :=
  ⟨[(.count, "3")], ["/app.py"]⟩

theorem counts_and_ports_decode_three :
    instanceCount [(countProperty, "\u2003-3\n")] = .error (.badRequest (.countTooSmall (-3))) ∧
      parsePort "\u20038080\n" = .ok 8080 ∧ instanceCount [(countProperty, "+1_\u0663")] = .ok 13 ∧
      parsePort "\u3000" = .error (.badRequest (.portNotInteger portProperty "\u3000")) ∧
      ∃ options after, (Act.runOptions threeLine).perform failingSoon = (.ok options, after) ∧
        IsCount options.count ∧
        Act.Records (Act.runWith runContext.recorded options) (Act.runWith runContext options) after
          fun _ turns _ => ∀ request outcome moment, .deploy request outcome moment ∈ turns →
            instanceCount request.deploymentProperties = .ok 3 := by
  obtain ⟨hwritten, hcounts, hports, hnames, hrun⟩ :=
    counts_and_ports_decode runContext failingSoon
  have hthirteen : Names "+1_\u0663" 13 := by
    refine ⟨"+1_\u0663", ⟨"", "", rfl, rfl, rfl⟩, .plus ⟨[1, 3], ?_, by decide, rfl⟩⟩
    exact .apart rfl (.last (by decide))
  have hread : ((Act.runOptions threeLine).perform failingSoon).1.toOption.map (·.count) =
      some 3 := by
    decide +kernel
  obtain ⟨options, hoptions, hthree⟩ := Option.map_eq_some_iff.mp hread
  refine ⟨?_, ?_, ?_, ?_, options, _, Act.perform_of_toOption hoptions, ?_⟩
  · have hpadded : IsPadded "\u2003-3\n" (toString (-3 : Int)) := ⟨"\u2003", "\n", rfl, rfl, rfl⟩
    exact (hwritten (-3) _ (by decide) hpadded).1 [(countProperty, "\u2003-3\n")] rfl
  · exact (hwritten 8080 _ (by decide) ⟨"\u2003", "\n", rfl, rfl, rfl⟩).2 portProperty
  · exact (hcounts [(countProperty, "+1_\u0663")] (.ok 13)).mpr (.named hthirteen (by decide))
  · exact (hports _ _ _).mpr (.unreadable fun n hn => (hnames _ n hn).2 rfl)
  · have hcount := hrun threeLine options _ (Act.perform_of_toOption hoptions)
    rw [hthree] at hcount ⊢
    exact hcount

end AppSupervisor
