import BusNetwork.Main
import BusNetwork.Proofs.Document
import BusNetwork.Proofs.Quantity.Rounding
import BusNetwork.Proofs.Quantity.Packing
import BusNetwork.Proofs.Quantity.Binary64
import BusNetwork.Proofs.Outcome.Faults
import BusNetwork.Proofs.Catalogue.Gaps
import BusNetwork.Proofs.JourneyGraph.Layout
import BusNetwork.Proofs.Quantity.Sums
import BusNetwork.Proofs.JourneyGraph.Agreement
import BusNetwork.Proofs.Loading.Repeats
import BusNetwork.Proofs.Document.Responses
import BusNetwork.Proofs.Document.Faults
import BusNetwork.Proofs.Document.Reading
import BusNetwork.Proofs.Catalogue.Runs
import BusNetwork.Proofs.Catalogue.Index
import BusNetwork.Proofs.Catalogue.History
import BusNetwork.Proofs.Quantity.Quotient
import BusNetwork.Proofs.Route.Kept
import BusNetwork.Proofs.Quantity.Steady
import BusNetwork.Proofs.Route.Comparison
import BusNetwork.Proofs.Route.Shortening
import BusNetwork.Proofs.Quantity.Whole
import BusNetwork.Proofs.Route.WholeRoads
import BusNetwork.Proofs.JourneyGraph.Weights
import BusNetwork.Proofs.Route.Faster
import BusNetwork.Proofs.Route.Undirected
import BusNetwork.Proofs.Route.Turned
import BusNetwork.Proofs.Search.Assembled
import BusNetwork.Proofs.Tables
import BusNetwork.Proofs.Document.Rearranged
import BusNetwork.Proofs.Document.Written
import BusNetwork.Proofs.JourneyGraph.Unnoticed
import BusNetwork.Proofs.Route.Stopovers
import BusNetwork.Proofs.Search.Scan
import BusNetwork.Proofs.Route.Ties
import BusNetwork.Proofs.Bus.Traversal
import BusNetwork.Proofs.Catalogue.Known
import BusNetwork.Proofs.Loading.Again
import BusNetwork.Proofs.Route.Twins
import BusNetwork.Proofs.Quantity.Range
import BusNetwork.Proofs.Document.Faithful
import BusNetwork.Proofs.Search.Course
import BusNetwork.Proofs.Catalogue.Lengths
import BusNetwork.Proofs.Quantity.Spherical
