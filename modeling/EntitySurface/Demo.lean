import EntitySurface.Schema.Command

/-!
# Demonstration schemas

Two schemas that show how entities are composed, each as the list of the commands that compose it.
-/

namespace EntitySurface

/-- A schema that can be built on demand. -/
structure Demo where
  name : String
  description : String
  commands : List Command

namespace Demo

/-- Compose and finish the schema. -/
def build (demo : Demo) : Except Fault Schema :=
  Schema.compose { name := demo.name } demo.commands

/-- Attach an active property. -/
def attach (entity : EntityKey) (property : Property) : Command :=
  .property entity property .active

/-- An entity with a stored object and a unique identity. -/
def identified (entity : EntityKey) (label description : String) : List Command :=
  [.entity entity.space entity.name label,
   attach entity (.ofKind .storedObject),
   attach entity (.ofKind .uniqueIdentified),
   .describe entity description]

/-- A category from codes with labels. -/
def category (key : ChoiceKey) (values : List (String × String)) : Command :=
  .category { key, values := values.map fun (code, label) => { code, label } }

/-! ## Sales -/

namespace Sales

/-- The states of an invoice. -/
def invoiceState : ChoiceKey := ⟨"sales", "InvoiceState"⟩

/-- The states of an order. -/
def orderState : ChoiceKey := ⟨"sales", "OrderState"⟩

/-- Customers, which place orders and receive invoices. -/
def customer : EntityKey := ⟨"sales", "Customer"⟩

/-- The articles for sale. -/
def product : EntityKey := ⟨"sales", "Product"⟩

/-- The bills of a customer. -/
def invoice : EntityKey := ⟨"sales", "Invoice"⟩

/-- The orders of a customer. -/
def order : EntityKey := ⟨"sales", "Order"⟩

/-- The positions of an order. -/
def orderLine : EntityKey := ⟨"sales", "OrderLine"⟩

/-- The link between orders and the products in them. -/
def orderProductLink : EntityKey := ⟨"sales", "OrderProductLink"⟩

/-- Declare the states of invoices and orders. -/
def categories : List Command :=
  [category invoiceState [("DRAFT", "Draft"), ("SENT", "Sent"), ("PAID", "Paid")],
   category orderState [("OPEN", "Open"), ("SHIPPED", "Shipped"), ("CLOSED", "Closed")]]

/-- Customers with a number of their own and a searchable e-mail address. -/
def customers : List Command :=
  identified customer "Customer" "A party that places orders and receives invoices" ++
  [attach customer (.ofKind .named),
   attach customer { name := "NUMBERED", kind := .numbered, rules := [.automaticNumbering] },
   attach customer (.ofKind .lastUpdate),
   .property customer { name := "LETTER", kind := .printOut } .legacy,
   .field customer { name := "EMAIL", label := "E-Mail", type := .text 120, searchable := true },
   .loaderAlias customer ⟨"MAIL", "EMAIL"⟩]

/-- Products with a photo and a price. -/
def products : List Command :=
  identified product "Product" "A sellable article" ++
  [attach product (.ofKind .named),
   attach product { name := "PHOTO", kind := .imageContent },
   .field product { name := "PRICE", label := "Price", type := .decimal 12 2 }]

/-- Invoices, whose number, state and log hang together by declared hooks. -/
def invoices : List Command :=
  identified invoice "Invoice" "A bill sent to a customer" ++
  [attach invoice (.ofKind .numbered),
   attach invoice (.ofKind (.lifecycle invoiceState)),
   attach invoice (.ofKind .targetDate),
   attach invoice (.ofKind .creationLog),
   attach invoice { name := "INVOICEPDF", kind := .printOut },
   attach invoice { name := "CUSTOMER", kind := .linkedToParent customer },
   .field invoice { name := "DUEDATE", label := "Due Date", type := .date },
   .widget invoice (.field "DUEDATE") false none,
   .hook invoice "NUMBERED" "insert" "STOREDOBJECT" (.pre true),
   .hook invoice "TARGETDATE" "changestate" "LIFECYCLE" (.pre false),
   .hook invoice "CREATIONLOG" "changestate" "LIFECYCLE" .post]

/-- Orders with a state and automatic numbers. -/
def orders : List Command :=
  identified order "Order" "A customer order" ++
  [attach order { name := "NUMBERED", kind := .numbered, rules := [.automaticNumbering] },
   attach order (.ofKind (.lifecycle orderState)),
   attach order (.ofKind .lastUpdate),
   attach order { name := "CUSTOMER", kind := .linkedToParent customer }]

/-- Order lines; their parent link gives the order the children that its tab shows. -/
def orderLines : List Command :=
  identified orderLine "Order Line" "One position of an order" ++
  [attach orderLine { name := "ORDER", kind := .linkedToParent order, rules := [.subObject] },
   attach orderLine (.ofKind .numbered),
   .field orderLine
     { name := "QUANTITY", label := "Quantity", type := .decimal 10 3, mandatory := true },
   .tab order ⟨"LINES", "Lines", "CHILDREN_ORDERLINE_ORDER"⟩]

/-- The products of an order, as long as it is open. -/
def orderProductLinks : List Command :=
  identified orderProductLink "Ordered Product" "Product referenced by an open order" ++
  [attach orderProductLink
     { Property.ofKind (.linkObject order product) with
       rules := [.leftStateRestriction ["OPEN"]] }]

end Sales

/-- Customers with invoices and orders. -/
def sales : Demo where
  name := "sales"
  description := "Customers, invoices, orders with sub-object lines, products"
  commands := Sales.categories ++ Sales.customers ++ Sales.products ++ Sales.invoices
    ++ Sales.orders ++ Sales.orderLines ++ Sales.orderProductLinks ++ [.finish]

/-! ## Projects -/

namespace Projects

/-- The states of a project. -/
def projectState : ChoiceKey := ⟨"projects", "ProjectState"⟩

/-- The states of a task. -/
def taskState : ChoiceKey := ⟨"projects", "TaskState"⟩

/-- Planned undertakings. -/
def project : EntityKey := ⟨"projects", "Project"⟩

/-- The work that a project consists of. -/
def task : EntityKey := ⟨"projects", "Task"⟩

/-- The link between a task and those that come before it. -/
def taskDependency : EntityKey := ⟨"projects", "TaskDependency"⟩

/-- The documents of a project. -/
def document : EntityKey := ⟨"projects", "Document"⟩

/-- Physical parts. -/
def part : EntityKey := ⟨"projects", "Part"⟩

/-- The link between a part and the parts it consists of. -/
def partStructure : EntityKey := ⟨"projects", "PartStructure"⟩

/-- Declare the states of projects and tasks. -/
def categories : List Command :=
  [category projectState [("PLANNED", "Planned"), ("RUNNING", "Running"), ("DONE", "Done")],
   category taskState [("TODO", "To Do"), ("DOING", "In Progress"), ("DONE", "Done")]]

/-- Projects with a state and both logs. -/
def projects : List Command :=
  identified project "Project" "A planned undertaking" ++
  [attach project (.ofKind .named),
   attach project (.ofKind (.lifecycle projectState)),
   attach project (.ofKind .creationLog),
   attach project (.ofKind .lastUpdate)]

/-- Tasks; the dependency of their schedule is declared after them. -/
def tasks : List Command :=
  identified task "Task" "A scheduled unit of work" ++
  [attach task (.ofKind .named),
   attach task (.ofKind (.lifecycle taskState)),
   attach task (.ofKind .timeSlot),
   attach task (.ofKind (.schedule taskDependency)),
   attach task (.ofKind .simpleTaskWorkflow),
   attach task { name := "PROJECT", kind := .linkedToParent project, rules := [.subObject] },
   .hook task "SCHEDULE" "reschedule" "TIMESLOT" .post,
   .hook task "SIMPLETASKWORKFLOW" "changestate" "LIFECYCLE" (.pre false)]

/-- Dependencies, which link tasks with tasks. -/
def taskDependencies : List Command :=
  identified taskDependency "Task Dependency" "Predecessor relation between two tasks" ++
  [attach taskDependency (.ofKind (.linkObject task task))]

/-- Documents of a project, with iterations, versions and a file. -/
def documents : List Command :=
  identified document "Document" "A versioned project document" ++
  [attach document (.ofKind .named),
   attach document (.ofKind .iterated),
   attach document (.ofKind .versioned),
   attach document (.ofKind .fileContent),
   attach document { name := "PROJECT", kind := .linkedToParent project }]

/-- Parts with a name and a number. -/
def parts : List Command :=
  identified part "Part" "A physical part" ++
  [attach part (.ofKind .named), attach part (.ofKind .numbered)]

/-- Part structures, which link parts with parts of the same kind. -/
def partStructures : List Command :=
  identified partStructure "Part Structure" "Parent and child relation between parts" ++
  [attach partStructure (.ofKind (.autolinkObject part))]

end Projects

/-- Projects with tasks, documents and parts. -/
def projects : Demo where
  name := "projects"
  description := "Projects, scheduled tasks, versioned documents, part structures"
  commands := Projects.categories ++ Projects.projects ++ Projects.tasks
    ++ Projects.taskDependencies ++ Projects.documents ++ Projects.parts
    ++ Projects.partStructures ++ [.finish]

/-- The demonstrations in the order in which they are listed. -/
def all : List Demo :=
  [sales, projects]

/-- Look a demonstration up by its name, in either case of ASCII letters. -/
def find? (name : String) : Option Demo :=
  all.find? fun demo => Text.equalIgnoringAsciiCase demo.name name

end Demo

end EntitySurface
