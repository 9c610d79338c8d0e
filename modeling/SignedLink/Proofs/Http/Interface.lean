import SignedLink.Http.Interface
import SignedLink.Proofs.Http.Template
/-!
# SignedLink — where requests go

The path in front of the conversions is a template, so it may stand for many
texts, and it may look like another path of the service. Still nothing is
hidden: only conversions by document take `POST`, no other path is one of a
conversion by path, and where there is a conversion by document there are the
conversions by path beside it.

* `routes_eq_ok`: the routes of a service, by the template in front of its conversions.
* `destination_redirect`: a path beside one of conversions by document leads to the conversion of
  the identity that it names.
-/

namespace SignedLink.Http

variable {first : Template} {described : Bool} {method : String} {path before identity : List Char}
  {endpoint : Endpoint} {bindings : Bindings}

/-! ## The routes -/

/-- The template of conversions by document behind another. -/
def Template.convertible (first : Template) : Template :=
  first ++ literal "/uri".toList

/-- The template of conversions by path behind another. -/
def Template.redirectable (first : Template) : Template :=
  first ++ (literal "/binaries/".toList ++ [.named identityName .segment])

/-- The routes of a service whose conversions stand behind a template. -/
def routesBehind (described : Bool) (first : Template) : List Route :=
  (if described then pageRoutes else []) ++
    ([⟨.convert, first.convertible, ["POST"], true⟩,
      ⟨.redirect, first.redirectable, ["GET"], true⟩] ++ serviceRoutes)

theorem convertRoute_eq_ok {apiPath : List Char} {route : Route}
    (made : convertRoute apiPath = .ok route) :
    ∃ first, Template.piecesFrom apiPath.length apiPath = .ok first ∧
      Template.ofPath (convertPath apiPath) = .ok first.convertible ∧
      route = ⟨.convert, first.convertible, ["POST"], true⟩ := by
  unfold convertRoute at made
  split at made
  · cases made
  · next template read =>
    obtain ⟨pieces, -⟩ := Template.nodup_names_of_ofPath read
    obtain ⟨first, uri, readFirst, readUri, rfl⟩ := Template.piecesFrom_append_slash pieces
    cases (rfl : _ = Except.ok (Template.literal "uri".toList)).symm.trans readUri
    split at made
    · cases made
    · cases made
      exact ⟨first, readFirst, read, rfl⟩

theorem redirectRoute_eq_ok {apiPath : List Char} {route : Route}
    (made : redirectRoute apiPath = .ok route) :
    ∃ first, Template.piecesFrom apiPath.length apiPath = .ok first ∧
      first.redirectable.names.Nodup ∧
      Template.ofPath (redirectPath apiPath) = .ok first.redirectable ∧
      route = ⟨.redirect, first.redirectable, ["GET"], true⟩ := by
  unfold redirectRoute at made
  split at made
  · cases made
  · next template read =>
    obtain ⟨pieces, distinct⟩ := Template.nodup_names_of_ofPath read
    have parted : redirectPath apiPath =
        apiPath ++ '/' :: "binaries/\x7bcontent_identity\x7d".toList := by
      rw [redirectPath, List.append_assoc, List.append_assoc]
      rfl
    rw [parted] at pieces
    obtain ⟨first, binaries, readFirst, readBinaries, rfl⟩ :=
      Template.piecesFrom_append_slash pieces
    cases (rfl : _ = Except.ok
      (Template.literal "binaries/".toList ++ [.named identityName .segment])).symm.trans
        readBinaries
    split at made
    · cases made
    · cases made
      exact ⟨first, readFirst, distinct, read, rfl⟩

/-- The routes of settings, with the templates of both conversions. -/
theorem exists_templates_of_routes {settings : Settings} {found : List Route}
    (made : routes settings = .ok found) :
    ∃ first, found = routesBehind settings.docsEnabled first ∧
      first.redirectable.names.Nodup ∧
      Template.ofPath (convertPath settings.apiPath.toList) = .ok first.convertible ∧
      Template.ofPath (redirectPath settings.apiPath.toList) = .ok first.redirectable := by
  unfold routes conversionRoutes at made
  cases readConvert : convertRoute settings.apiPath.toList with
  | error flaw =>
    rw [readConvert] at made
    cases made
  | ok convert =>
    cases readRedirect : redirectRoute settings.apiPath.toList with
    | error flaw =>
      rw [readConvert, readRedirect] at made
      cases made
    | ok redirect =>
      rw [readConvert, readRedirect] at made
      -- both paths are read alike up to the slash where they part
      obtain ⟨first, readFirst, convertible, rfl⟩ := convertRoute_eq_ok readConvert
      obtain ⟨other, readOther, distinct, redirectable, rfl⟩ := redirectRoute_eq_ok readRedirect
      cases readFirst.symm.trans readOther
      exact ⟨first, (Except.ok.inj made).symm.trans (List.append_assoc ..), distinct, convertible,
        redirectable⟩

theorem routes_eq_ok {settings : Settings} {found : List Route}
    (made : routes settings = .ok found) :
    ∃ first, found = routesBehind settings.docsEnabled first ∧
      first.redirectable.names.Nodup := by
  obtain ⟨first, same, distinct, -⟩ := exists_templates_of_routes made
  exact ⟨first, same, distinct⟩

/-! ## Requests by document -/

theorem findRoute?_append (some others : List Route) (method : String) (path : List Char) :
    findRoute? (some ++ others) method path =
      (findRoute? some method path).or (findRoute? others method path) :=
  List.findSome?_append ..

theorem findRoute?_cons (route : Route) (others : List Route) (method : String)
    (path : List Char) :
    findRoute? (route :: others) method path =
      ((route.template.match? path).bind fun bindings =>
        if route.methods.contains method then some (route.endpoint, bindings) else none).or
          (findRoute? others method path) := by
  rw [findRoute?, List.findSome?_cons]
  cases (route.template.match? path).bind fun bindings =>
    if route.methods.contains method then some (route.endpoint, bindings) else none <;> rfl

/-- A request is given to no route that does not take its method. -/
theorem findRoute?_of_method {others : List Route}
    (foreign : ∀ route ∈ others, route.methods.contains method = false) (path : List Char) :
    findRoute? others method path = none := by
  rw [findRoute?, List.findSome?_eq_none_iff]
  intro route mem
  simp only [foreign route mem, Bool.false_eq_true, if_false]
  cases route.template.match? path <;> rfl

/-- Only conversions by document take `POST`. -/
theorem findRoute?_post (described : Bool) (first : Template) (path : List Char) :
    findRoute? (routesBehind described first) "POST" path =
      (first.convertible.match? path).map fun bindings => (.convert, bindings) := by
  have pages : findRoute? (if described then pageRoutes else []) "POST" path = none :=
    findRoute?_of_method (by cases described <;> decide) path
  have others : findRoute? (⟨.redirect, first.redirectable, ["GET"], true⟩ :: serviceRoutes) "POST"
      path = none := by
    refine findRoute?_of_method ?_ path
    rw [List.forall_mem_cons]
    exact ⟨rfl, by decide⟩
  rw [routesBehind, findRoute?_append, pages, Option.none_or, List.cons_append, findRoute?_cons,
    List.cons_append, List.nil_append, others, Option.or_none]
  cases first.convertible.match? path <;> rfl

/-! ## Requests by path -/

/-- A path of the pages is that of no conversion. -/
theorem findRoute?_pages (described : Bool) (method : String) (far : 'b' ∈ path) :
    findRoute? (if described then pageRoutes else []) method path = none := by
  have foreign (text : List Char) (absent : 'b' ∉ text) :
      (Template.literal text).match? path = none := by
    rw [← List.append_nil (Template.literal text), Option.eq_none_iff_forall_ne_some]
    intro bindings matched
    obtain ⟨tail, rfl, last⟩ := Template.prefix_of_match?_literal matched
    rcases Template.ends_of_match?_nil last with rfl | rfl
    · simp [absent] at far
    · simp [absent] at far
  cases described with
  | false => rfl
  | true =>
    rw [if_pos rfl, findRoute?, List.findSome?_eq_none_iff]
    intro route mem
    have literal : ∃ text, route.template = .literal text ∧ 'b' ∉ text := by
      simp only [pageRoutes, List.mem_cons, List.not_mem_nil, or_false] at mem
      rcases mem with rfl | rfl | rfl | rfl
      · exact ⟨_, rfl, by decide⟩
      · exact ⟨_, rfl, by decide⟩
      · exact ⟨_, rfl, by decide⟩
      · exact ⟨_, rfl, by decide⟩
    obtain ⟨text, is, absent⟩ := literal
    rw [is, foreign text absent]
    rfl

/-- What matches the template of conversions by path has the identity behind its last slash. -/
theorem bindings_of_match?_redirectable (distinct : first.redirectable.names.Nodup)
    (nonempty : identity ≠ []) (noSlash : '/' ∉ identity)
    (matched : first.redirectable.match? (before ++ "/binaries/".toList ++ identity) =
      some bindings) :
    bindings.lookup identityName = some identity := by
  obtain ⟨front, behind, own, others, split, ends, rfl, names, -⟩ :=
    Template.match?_append matched
  obtain ⟨tail, rfl, last⟩ := Template.prefix_of_match?_literal ends
  -- both have their last slash in the same place
  have same : tail = identity := by
    have free := Template.not_mem_of_match?_segment last
    have whole : front ++ "/binaries".toList ++ '/' :: tail =
        before ++ "/binaries".toList ++ '/' :: identity := by simpa using split.symm
    exact PieceKind.eq_of_append_slash free noSlash whole
  subst same
  rw [Template.match?_segment identityName nonempty noSlash] at last
  cases last
  have fresh : identityName ∉ own.map Prod.fst := by
    rw [names]
    intro mem
    have apart := List.disjoint_of_nodup_append
      (show (first.names ++ [identityName]).Nodup by
        simpa [Template.redirectable, Template.names, Template.literal] using distinct)
    exact apart mem List.mem_cons_self
  rw [List.lookup_append]
  have unbound : own.lookup identityName = none := by
    rw [List.lookup_eq_none_iff]
    intro binding mem
    rw [bne_iff_ne]
    intro same
    exact fresh (List.mem_map.mpr ⟨binding, mem, same.symm⟩)
  rw [unbound, Option.none_or, List.lookup_cons, beq_self_eq_true]

/-- What the template of conversions by path matches is given to them. -/
theorem destination_of_match?_redirectable (described : Bool)
    (matched : first.redirectable.match? path = some bindings) :
    destination (routesBehind described first) "GET" path = .endpoint .redirect bindings := by
  have far : 'b' ∈ path := by
    obtain ⟨front, behind, own, others, rfl, ends, -⟩ := Template.match?_append matched
    obtain ⟨tail, rfl, -⟩ := Template.prefix_of_match?_literal ends
    simp
  refine destination_of_findRoute? ?_
  rw [routesBehind, findRoute?_append, findRoute?_pages described "GET" far, Option.none_or,
    List.cons_append, findRoute?_cons, List.cons_append, findRoute?_cons, matched]
  -- the route in front of it takes another method
  cases first.convertible.match? path <;> rfl

/-- Where there is a conversion by document there are the conversions by path beside it. -/
theorem destination_redirect (described : Bool) (distinct : first.redirectable.names.Nodup)
    (nonempty : identity ≠ []) (noSlash : '/' ∉ identity)
    (beside : (first.convertible.match? (before ++ "/uri".toList)).isSome = true) :
    ∃ bindings, destination (routesBehind described first) "GET"
        (before ++ "/binaries/".toList ++ identity) = .endpoint .redirect bindings ∧
      bindings.lookup identityName = some identity := by
  have covers : Template.Covers first before := by
    obtain ⟨bindings, matched⟩ := Option.isSome_iff_exists.mp beside
    obtain ⟨front, behind, own, others, split, ends, -, -, covers⟩ :=
      Template.match?_append matched
    rw [← List.append_nil (Template.literal _)] at ends
    obtain ⟨tail, rfl, last⟩ := Template.prefix_of_match?_literal ends
    rcases Template.ends_of_match?_nil last with rfl | rfl
    · have same : before = front := by simpa using split
      rw [same]
      exact covers rfl
    · -- no line feed stands at the end of this path
      have := congrArg List.getLast? split
      simp at this
  have matched : (first.redirectable.match? (before ++ "/binaries/".toList ++ identity)).isSome =
      true := by
    have last : ((Template.literal "/binaries/".toList ++
        [Piece.named identityName .segment]).match?
          ('/' :: ("binaries/".toList ++ identity))).isSome = true := by
      show ((Template.literal "/binaries/".toList ++ _).match?
        ("/binaries/".toList ++ identity)).isSome = true
      rw [Template.match?_literal_append, Template.match?_segment identityName nonempty noSlash]
      rfl
    rw [List.append_assoc]
    exact Template.isSome_match?_of_covers covers last
  obtain ⟨bindings, matched⟩ := Option.isSome_iff_exists.mp matched
  exact ⟨bindings, destination_of_match?_redirectable described matched,
    bindings_of_match?_redirectable distinct nonempty noSlash matched⟩

/-! ## Requests about the service itself -/

/-- The readiness of a service is not hidden by its other paths. -/
theorem destination_readiness (described : Bool) (first : Template) :
    destination (routesBehind described first) "GET" "/readyz".toList =
      .endpoint .readiness [] := by
  have pages : findRoute? (if described then pageRoutes else []) "GET" "/readyz".toList = none := by
    cases described <;> rfl
  have redirect : first.redirectable.match? "/readyz".toList = none := by
    rw [Option.eq_none_iff_forall_ne_some]
    intro bindings matched
    obtain ⟨front, behind, own, others, split, last, -⟩ := Template.match?_append matched
    obtain ⟨tail, rfl, -⟩ := Template.prefix_of_match?_literal last
    -- the path is too short to hold the fixed part of the template
    have := congrArg List.length split
    simp at this
    omega
  refine destination_of_findRoute? ?_
  rw [routesBehind, findRoute?_append, pages, Option.none_or, List.cons_append, findRoute?_cons,
    List.cons_append, findRoute?_cons, redirect]
  cases first.convertible.match? "/readyz".toList <;> rfl

end SignedLink.Http
