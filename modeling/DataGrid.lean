import DataGrid.Columns.Description
import DataGrid.Proofs.Resource.ComputedSorting
import DataGrid.Proofs.Resource.TextIndex
import DataGrid.Proofs.Resource.Totals
import DataGrid.Proofs.Response.Dates
import DataGrid.Proofs.Response.Presentation
import DataGrid.Proofs.Response.RangeText
import DataGrid.Proofs.Compile.Search
import DataGrid.Proofs.Compile.Operators
import DataGrid.Proofs.Resource.Layout
import DataGrid.Proofs.Store.History
import DataGrid.Proofs.Store.ListedPaths
import DataGrid.Proofs.Store.SortKeys
import DataGrid.Proofs.Store.Missing
import DataGrid.Proofs.Store.Partition
import DataGrid.Proofs.Compile.Callbacks
import DataGrid.Proofs.Response.Echo
import DataGrid.Proofs.Document.DottedPaths
import DataGrid.Proofs.Store.RowByRow
import DataGrid.Proofs.Store.Sums
import DataGrid.Proofs.Store.RangeSegments
import DataGrid.Proofs.Resource.GroupKeys
import DataGrid.Proofs.Columns.Registrations
