import ServiceBindings.Schema.Validation

/-!
Two schemas that are always there: `test`, whose service has a method of every call pattern, and `catalog`, a small
product catalog.
-/

namespace ServiceBindings.Builtin

/-- The definitions of the schema `test`. -/
def testDefinitions : Definitions :=
  let entry := DataType.named "Entry"
  let id : PathParameter := ⟨"id", .u32⟩
  { package := "test"
    services := [{
      name := "MyService"
      description := some "Service covering every call pattern"
      methods := [
        { name := "unknown", pattern := .fireAndForget, pathParams := [id] },
        { name := "unknownReturn", pattern := .unary, response := some entry, pathParams := [id] },
        { name := "unknownArgument", pattern := .fireAndForget, request := some entry, pathParams := [id] },
        { name := "unary", pattern := .unary, request := some entry, response := some entry,
          pathParams := [id], httpSegment := some "foo" },
        { name := "serverStreaming", pattern := .serverStreaming, request := some entry, response := some entry },
        { name := "clientStreaming", pattern := .clientStreaming, request := some entry, response := some entry },
        { name := "bidiStreaming", pattern := .bidiStreaming, request := some entry, response := some entry }] }]
    enums := [
      { name := "Entry2", constants := [⟨"A", "A"⟩, ⟨"B", "B"⟩, ⟨"C", "C"⟩] },
      { name := "RootEnum", constants := [⟨"FOO", "Foo"⟩] }]
    messages := [{ name := "Entry", fields := [⟨"field", .string, false⟩] }] }

/-- The definitions of the schema `catalog`. -/
def catalogDefinitions : Definitions :=
  let product := DataType.named "Product"
  { package := "catalog"
    services := [{
      name := "Catalog"
      description := some "Product catalog"
      methods := [
        { name := "getProduct", pattern := .unary, description := some "Fetch one product by id",
          response := some product, pathParams := [⟨"id", .u64⟩] },
        { name := "putProduct", pattern := .unary, description := some "Create or replace a product",
          request := some product, response := some product, httpSegment := some "products" },
        { name := "deleteProduct", pattern := .fireAndForget, pathParams := [⟨"id", .u64⟩] },
        { name := "countByAvailability", pattern := .unary, response := some (.named "ProductCount"),
          pathParams := [⟨"availability", .named "Availability"⟩] },
        { name := "watchProducts", pattern := .serverStreaming, description := some "Stream product changes",
          response := some product }] }]
    enums := [{
      name := "Availability"
      description := some "Stock state of a product"
      constants := [⟨"IN_STOCK", "in-stock"⟩, ⟨"BACKORDER", "backorder"⟩, ⟨"DISCONTINUED", "discontinued"⟩] }]
    messages := [
      { name := "Product"
        fields := [⟨"id", .u64, true⟩, ⟨"name", .string, true⟩, ⟨"unitPrice", .f64, false⟩,
          ⟨"availability", .named "Availability", false⟩] },
      { name := "ProductCount", fields := [⟨"count", .u64, true⟩] }] }

/-- The built-in definitions by name, in order. -/
def all : List (String × Definitions) :=
  [("test", testDefinitions), ("catalog", catalogDefinitions)]

/-- The names of the built-in schemas. -/
def names : List String :=
  all.map (·.1)

end ServiceBindings.Builtin
